import StageScript.Proofs.NoOps
import StageScript.Proofs.References
import StageScript.Proofs.Safety

/-!
Filling the tables of an area. Seven commands offer entries to the area that is being filled, at the
expense of the level pool. Whatever the commands are and whatever their operands, the tables and the
pool come out as if the entries had been offered to them one after the other, and each one had been
taken that there was room for.
-/

namespace StageScript

/-- An entry of a table of an area, with its slot where the table has slots. -/
inductive TableEntry where
  | spawn (spawn : Spawn)
  | warpNode (node : WarpNode)
  | paintingWarp (slot : Fin paintingSlots) (node : WarpNode)
  | instantWarp (slot : Fin instantWarpSlots) (warp : InstantWarp)
  | whirlpool (slot : Fin whirlpoolSlots) (whirlpool : Whirlpool)

namespace TableEntry

/-- What the pool is charged for an entry, also for one that takes the slot of another. -/
def cost : TableEntry → Nat
  | .spawn _ => Spawn.cost
  | .warpNode _ | .paintingWarp .. => WarpNode.cost
  | .instantWarp .. => InstantWarp.cost
  | .whirlpool .. => Whirlpool.cost

theorem cost_pos (entry : TableEntry) : 0 < entry.cost := by
  cases entry <;> exact Nat.zero_lt_succ _

/-- Spawns and warp nodes come at the end of their tables, and all others into their slots. -/
def link (entry : TableEntry) (area : Area) : Area :=
  match entry with
  | .spawn placed => { area with spawns := area.spawns.push placed }
  | .warpNode node => { area with warpNodes := area.warpNodes.push node }
  | .paintingWarp slot node => { area with paintingWarps := area.paintingWarps.set slot (some node) }
  | .instantWarp slot warp => { area with instantWarps := area.instantWarps.set slot (some warp) }
  | .whirlpool slot pull => { area with whirlpools := area.whirlpools.set slot (some pull) }

end TableEntry

/-- The area that is being filled, and the pool that its entries are charged to. -/
structure Tables where
  area : Area
  pool : Pool

namespace Tables

/-- Takes an entry that the pool has room for, and no other. -/
def take (tables : Tables) (entry : TableEntry) : Tables :=
  if tables.pool.used + entry.cost ≤ tables.pool.capacity then
    ⟨entry.link tables.area, { tables.pool with used := tables.pool.used + entry.cost }⟩
  else tables

theorem used_le_take {tables : Tables} (fits : tables.pool.used ≤ tables.pool.capacity)
    (entry : TableEntry) : (tables.take entry).pool.used ≤ (tables.take entry).pool.capacity := by
  unfold take
  split
  next room => exact room
  next => exact fits

theorem used_le_foldl {tables : Tables} (fits : tables.pool.used ≤ tables.pool.capacity)
    (entries : List TableEntry) :
    (entries.foldl take tables).pool.used ≤ (entries.foldl take tables).pool.capacity := by
  induction entries generalizing tables with
  | nil => exact fits
  | cons entry rest ih => exact ih (used_le_take fits entry)

theorem allocate_cases (tables : Tables) (entry : TableEntry) :
    tables.pool.allocate entry.cost = .ok (tables.take entry).pool ∧
        (tables.take entry).area = entry.link tables.area ∨
      (∃ exhausted, tables.pool.allocate entry.cost = .error exhausted) ∧
        tables.take entry = tables := by
  -- Without a cost an entry would be allocated even by a pool that is used beyond its capacity.
  have positive := entry.cost_pos
  unfold take Pool.allocate Pool.available
  by_cases room : tables.pool.used + entry.cost ≤ tables.pool.capacity
  · left
    rw [if_neg (by omega), if_pos room]
    exact ⟨rfl, rfl⟩
  · right
    rw [if_pos (by omega), if_neg room]
    exact ⟨⟨_, rfl⟩, rfl⟩

end Tables

namespace Level

variable {level : Level} {area changed : Area}

theorem currentArea?_setCurrent (filled : level.currentArea? = some area) (changed : Area) :
    (level.setCurrent changed).currentArea? = some changed := by
  obtain ⟨slot, named, found⟩ := Option.bind_eq_some_iff.mp filled
  have inside : slot.toNat < areaCount := by
    by_contra outside
    have empty : level.area? slot = none := by
      unfold area?
      rw [Vector.getElem?_eq_none (Nat.le_of_not_lt outside)]
      rfl
    cases empty.symm.trans found
  rw [setCurrent_eq_setArea named]
  change level.current.bind (level.setArea slot changed).area? = some changed
  rw [named, Option.bind_some, area?_setArea, if_pos ⟨rfl, inside⟩]

theorem area?_setCurrent_of_ne {slot : UInt8} (other : level.current ≠ some slot) (changed : Area) :
    (level.setCurrent changed).area? slot = level.area? slot := by
  cases named : level.current with
  | none => simp only [setCurrent, named, area?]
  | some index =>
    rw [setCurrent_eq_setArea named, area?_setArea, if_neg]
    rintro ⟨rfl, _⟩
    exact other named

end Level

namespace Command

variable {command : Command} {size : UInt8}

section Whole

variable (whole : command.layout.commandBytes size ≤ command.length)
include whole

theorem exists_operand (field : Assembly.Field) (inside : field.stop ≤ size.toNat) :
    ∃ value, command.operand field.offset (field.value.width command.layout.pointerWidth) =
      .ok value := by
  have fits := field.end_le_commandBytes command.layout inside
  have reached := Nat.lt_of_le_of_lt fits (command.layout.commandBytes_lt size)
  exact ⟨_, operand_eq_ok reached (fits.trans whole)⟩

theorem exists_u8 {offset : Nat} (inside : offset + 1 ≤ size.toNat) :
    ∃ value, command.u8 offset = .ok value := by
  obtain ⟨value, read⟩ : ∃ value, command.operand offset 1 = .ok value :=
    exists_operand whole ⟨offset, .u8 0⟩ inside
  exact ⟨_, by rw [u8, read]; rfl⟩

theorem exists_i16 {offset : Nat} (inside : offset + 2 ≤ size.toNat) :
    ∃ value, command.i16 offset = .ok value := by
  obtain ⟨value, read⟩ : ∃ value, command.operand offset 2 = .ok value :=
    exists_operand whole ⟨offset, .i16 0⟩ inside
  exact ⟨_, by rw [i16, u16, read]; rfl⟩

theorem exists_u32 {offset : Nat} (inside : offset + 4 ≤ size.toNat) :
    ∃ value, command.u32 offset = .ok value := by
  obtain ⟨value, read⟩ : ∃ value, command.operand offset 4 = .ok value :=
    exists_operand whole ⟨offset, .u32 0⟩ inside
  exact ⟨_, by rw [u32, read]; rfl⟩

theorem exists_pointerValue {offset : Nat} (inside : offset + 4 ≤ size.toNat) :
    ∃ value, command.pointerValue offset = .ok value :=
  exists_operand whole ⟨offset, .pointer 0⟩ inside

theorem exists_vec3 {offset : Nat} (inside : offset + 6 ≤ size.toNat) :
    ∃ value, command.vec3 offset = .ok value := by
  obtain ⟨x, readX⟩ := exists_i16 whole (show offset + 2 ≤ _ by omega)
  obtain ⟨y, readY⟩ := exists_i16 whole (show offset + 2 + 2 ≤ _ by omega)
  obtain ⟨z, readZ⟩ := exists_i16 whole (show offset + 4 + 2 ≤ _ by omega)
  exact ⟨_, by rw [vec3, readX, readY, readZ]; rfl⟩

theorem exists_warpNode (inside : 7 ≤ size.toNat) : ∃ value, command.warpNode = .ok value := by
  obtain ⟨id, readId⟩ := exists_u8 whole (show 2 + 1 ≤ _ by omega)
  obtain ⟨level, readLevel⟩ := exists_u8 whole (show 3 + 1 ≤ _ by omega)
  obtain ⟨area, readArea⟩ := exists_u8 whole (show 4 + 1 ≤ _ by omega)
  obtain ⟨node, readNode⟩ := exists_u8 whole (show 5 + 1 ≤ _ by omega)
  obtain ⟨flags, readFlags⟩ := exists_u8 whole (show 6 + 1 ≤ _ by omega)
  exact ⟨_, by rw [warpNode, readId, readLevel, readArea, readNode, readFlags]; rfl⟩

end Whole

end Command

def Opcode.offersEntry : Opcode → Bool
  | .placeObject | .placeObjectExt | .placeObjectExt2 | .createWarpNode | .createPaintingWarpNode
  | .createInstantWarp | .createWhirlpool => true
  | _ => false

inductive Instruction.OffersEntry : Instruction → Prop where
  | placeObject (spawn : Spawn) : OffersEntry (.placeObject spawn)
  | placeObjectExt (model : UInt8) (position angle : Vec3) (behaviorArg token : UInt32)
    (acts : UInt8) : OffersEntry (.placeObjectExt model position angle behaviorArg token acts)
  | placeObjectExt2 (position angle : Vec3) (behaviorArg modelToken token : UInt32) (acts : UInt8) :
    OffersEntry (.placeObjectExt2 position angle behaviorArg modelToken (.ok token) acts)
  | createWarpNode (node : WarpNode) : OffersEntry (.createWarpNode node)
  | createPaintingWarpNode (node : WarpNode) : OffersEntry (.createPaintingWarpNode node)
  | createInstantWarp (index : UInt8) (warp : InstantWarp) :
    OffersEntry (.createInstantWarp index warp)
  | createWhirlpool (index : UInt8) (whirlpool : Whirlpool) :
    OffersEntry (.createWhirlpool index whirlpool)

/-- A command that offers an entry, with no fewer bytes than the commands of its opcode have. -/
structure Offering where
  opcode : Opcode
  command : Command
  offers : opcode.offersEntry
  whole : command.layout.commandBytes opcode.size ≤ command.length

namespace Offering

/-- The behavior is given by a number that is too large for an address. -/
def Strays (offering : Offering) (value : Nat) : Prop :=
  offering.opcode = .placeObject ∧ offering.command.pointerValue 20 = .ok value ∧ limit32 ≤ value

/-- The outcome of reading the command: an instruction that offers an entry, unless the number for
the behavior strays. -/
def ReadsAs (offering : Offering) (read : Except ReadFault Instruction) : Prop :=
  (∃ instruction, read = .ok instruction ∧ instruction.OffersEntry ∧
      ∀ value, ¬ offering.Strays value) ∨
    ∃ value, offering.Strays value ∧
      read = .error (.notAnAddress offering.command.pointer value)

theorem ReadsAs.bind {α : Type} {offering : Offering} {operand : Except ReadFault α}
    {next : α → Except ReadFault Instruction} (readable : ∃ value, operand = .ok value)
    (reads : ∀ value, offering.ReadsAs (next value)) : offering.ReadsAs (operand >>= next) := by
  obtain ⟨value, rfl⟩ := readable
  exact reads value

theorem ReadsAs.ok {offering : Offering} {instruction : Instruction}
    (offers : instruction.OffersEntry) (other : decide (offering.opcode = .placeObject) = false) :
    offering.ReadsAs (.ok instruction) :=
  .inl ⟨instruction, rfl, offers, fun _ strays => of_decide_eq_false other strays.1⟩

theorem readsAs (offering : Offering) :
    offering.ReadsAs (Instruction.read offering.opcode offering.command) := by
  obtain ⟨opcode, command, offers, whole⟩ := offering
  cases opcode with
  | placeObject =>
    refine .bind (command.exists_u8 whole (by decide)) fun acts => ?_
    refine .bind (command.exists_u8 whole (by decide)) fun model => ?_
    refine .bind (command.exists_vec3 whole (by decide)) fun position => ?_
    refine .bind (command.exists_vec3 whole (by decide)) fun angle => ?_
    refine .bind (command.exists_u32 whole (by decide)) fun behaviorArg => ?_
    -- The only operand that has to be more than inside the command is read last.
    obtain ⟨value, read⟩ := command.exists_pointerValue whole (show 20 + 4 ≤ _ by decide)
    by_cases small : value < limit32
    · have address : command.address 20 = .ok ⟨UInt32.ofNat value⟩ := by
        rw [Command.address, read]
        exact if_pos small
      rw [address]
      refine .inl ⟨_, rfl, .placeObject _, fun other strays => ?_⟩
      cases read.symm.trans strays.2.1
      exact Nat.not_lt.mpr strays.2.2 small
    · have stray : command.address 20 = .error (.notAnAddress command.pointer value) := by
        rw [Command.address, read]
        exact if_neg small
      rw [stray]
      exact .inr ⟨value, ⟨rfl, read, Nat.le_of_not_lt small⟩, rfl⟩
  | placeObjectExt =>
    refine .bind (command.exists_u8 whole (by decide)) fun acts => ?_
    refine .bind (command.exists_u8 whole (by decide)) fun model => ?_
    refine .bind (command.exists_vec3 whole (by decide)) fun position => ?_
    refine .bind (command.exists_vec3 whole (by decide)) fun angle => ?_
    refine .bind (command.exists_u32 whole (by decide)) fun behaviorArg => ?_
    refine .bind (command.exists_u32 whole (by decide)) fun token => ?_
    exact .ok (.placeObjectExt ..) rfl
  | placeObjectExt2 =>
    refine .bind (command.exists_u8 whole (by decide)) fun acts => ?_
    refine .bind (command.exists_vec3 whole (by decide)) fun position => ?_
    refine .bind (command.exists_vec3 whole (by decide)) fun angle => ?_
    refine .bind (command.exists_u32 whole (by decide)) fun behaviorArg => ?_
    refine .bind (command.exists_u32 whole (by decide)) fun modelToken => ?_
    obtain ⟨token, read⟩ := command.exists_u32 whole (show 24 + 4 ≤ _ by decide)
    rw [read]
    exact .ok (.placeObjectExt2 ..) rfl
  | createWarpNode =>
    exact .bind (command.exists_warpNode whole (by decide)) fun node =>
      .ok (.createWarpNode node) rfl
  | createPaintingWarpNode =>
    exact .bind (command.exists_warpNode whole (by decide)) fun node =>
      .ok (.createPaintingWarpNode node) rfl
  | createInstantWarp =>
    refine .bind (command.exists_u8 whole (by decide)) fun index => ?_
    refine .bind (command.exists_u8 whole (by decide)) fun destArea => ?_
    refine .bind (command.exists_vec3 whole (by decide)) fun displacement => ?_
    exact .ok (.createInstantWarp ..) rfl
  | createWhirlpool =>
    refine .bind (command.exists_u8 whole (by decide)) fun index => ?_
    refine .bind (command.exists_u8 whole (by decide)) fun condition => ?_
    refine .bind (command.exists_vec3 whole (by decide)) fun position => ?_
    refine .bind (command.exists_i16 whole (by decide)) fun strength => ?_
    exact .ok (.createWhirlpool ..) rfl
  | _ => cases offers

end Offering

namespace Machine

variable {E : Embedding} {start now machine : Machine E} {area : Area} {tables : Tables}
  {offered : Option TableEntry} {outcome : Outcome E}

def selected? (machine : Machine E) (spawn : Spawn) : Option TableEntry :=
  if machine.level.vars.actMatches spawn.acts then some (.spawn spawn) else none

/-- The entry that an instruction offers: its tokens stand for something, its mask selects the act, and
its slot is in range. -/
def offered? (machine : Machine E) : Instruction → Option TableEntry
  | .placeObject spawn => machine.selected? spawn
  | .placeObjectExt model position angle behaviorArg token acts => do
    let (name, address) ← machine.namedAddress? token
    machine.selected?
      ⟨model.toUInt16, position, angle, behaviorArg, .named name address, acts⟩
  | .placeObjectExt2 position angle behaviorArg modelToken (.ok token) acts => do
    let model ← machine.namedModel? modelToken
    let (name, address) ← machine.namedAddress? token
    machine.selected? ⟨model, position, angle, behaviorArg, .named name address, acts⟩
  | .createWarpNode node => some (.warpNode node)
  | .createPaintingWarpNode node =>
    if inside : node.id.toNat < paintingSlots then some (.paintingWarp ⟨_, inside⟩ node) else none
  | .createInstantWarp index warp =>
    if inside : index.toNat < instantWarpSlots then some (.instantWarp ⟨_, inside⟩ warp) else none
  | .createWhirlpool index whirlpool =>
    if inside : index.toNat < whirlpoolSlots then some (.whirlpool ⟨_, inside⟩ whirlpool) else none
  | _ => none

def offer? (machine : Machine E) (offering : Offering) : Option TableEntry :=
  match Instruction.read offering.opcode offering.command with
  | .ok instruction => machine.offered? instruction
  | .error _ => none

def Takes (machine : Machine E) (offered : Option TableEntry) (outcome : Outcome E) : Prop :=
  match offered with
  | some entry => ∃ opcode, outcome = machine.attempt (machine.addEntry opcode entry.cost entry.link)
  | none => ∃ reporter, outcome = (machine.withReporter reporter).next

theorem takes_of_report (diagnostic : Diagnostic) :
    machine.Takes none (machine.report diagnostic).next :=
  ⟨_, rfl⟩

theorem takes_placeSpawn (opcode : Opcode) (spawn : Spawn) :
    machine.Takes (machine.selected? spawn) (machine.attempt (machine.placeSpawn opcode spawn)) := by
  unfold selected? placeSpawn
  split
  next => exact ⟨opcode, rfl⟩
  next => exact ⟨machine.reporter, rfl⟩

theorem takes_inSlot (machine : Machine E) (opcode : Opcode) (index : UInt8) {slots : Nat}
    (entry : index.toNat < slots → TableEntry) :
    machine.Takes (if inside : index.toNat < slots then some (entry inside) else none)
      (machine.attempt (inSlot opcode index slots fun inside =>
        machine.addEntry opcode (entry inside).cost (entry inside).link)) := by
  unfold inSlot
  split
  next => exact ⟨opcode, rfl⟩
  next => exact takes_of_report _

theorem takes_exec {instruction : Instruction} (offers : instruction.OffersEntry)
    (following : Pointer) (machine : Machine E) :
    machine.Takes (machine.offered? instruction) (machine.exec instruction following) := by
  cases offers with
  | placeObject spawn => exact takes_placeSpawn .placeObject spawn
  | placeObjectExt model position angle behaviorArg token acts =>
    simp only [exec, placeObjectExt, offered?, tokenAddress_eq]
    cases machine.namedAddress? token with
    | none => exact takes_of_report _
    | some found => exact takes_placeSpawn .placeObjectExt _
  | placeObjectExt2 position angle behaviorArg modelToken token acts =>
    simp only [exec, placeObjectExt2, offered?, tokenAddress_eq, tokenModel_eq]
    cases machine.namedModel? modelToken with
    | none => exact takes_of_report _
    | some model =>
      cases machine.namedAddress? token with
      | none => exact takes_of_report _
      | some found => exact takes_placeSpawn .placeObjectExt2 _
  | createWarpNode node => exact ⟨.createWarpNode, rfl⟩
  | createPaintingWarpNode node =>
    exact takes_inSlot machine .createPaintingWarpNode node.id fun inside =>
      .paintingWarp ⟨_, inside⟩ node
  | createInstantWarp index warp =>
    exact takes_inSlot machine .createInstantWarp index fun inside => .instantWarp ⟨_, inside⟩ warp
  | createWhirlpool index whirlpool =>
    exact takes_inSlot machine .createWhirlpool index fun inside => .whirlpool ⟨_, inside⟩ whirlpool

/-- What a machine has become whose tables have been filled: these tables, and for the rest nothing
but reports. -/
structure Filled (start : Machine E) (tables : Tables) (now : Machine E) : Prop where
  area : now.level.currentArea? = some tables.area
  pool : now.level.pool = tables.pool
  others : ∀ slot, start.level.current ≠ some slot → now.level.area? slot = start.level.area? slot
  rest : now = { start with
    level := { start.level with areas := now.level.areas, pool := now.level.pool }
    reporter := now.reporter }

namespace Filled

theorem begin (active : machine.level.currentArea? = some area) :
    machine.Filled ⟨area, machine.level.pool⟩ machine :=
  ⟨active, rfl, fun _ _ => rfl, rfl⟩

variable (filled : start.Filled tables now)
include filled

theorem withReporter (reporter : Reporter) : start.Filled tables (now.withReporter reporter) :=
  ⟨filled.area, filled.pool, filled.others, congrArg (Machine.withReporter reporter) filled.rest⟩

theorem offer? (offering : Offering) : now.offer? offering = start.offer? offering := by
  rw [filled.rest]
  rfl

theorem addEntry (opcode : Opcode) (entry : TableEntry) :
    start.Filled (tables.take entry)
      (now.attempt (now.addEntry opcode entry.cost entry.link)).machine := by
  unfold Machine.addEntry
  rw [filled.area, filled.pool]
  rcases tables.allocate_cases entry with ⟨allocated, linked⟩ | ⟨⟨exhausted, full⟩, same⟩
  · simp only [allocated]
    constructor
    case area =>
      rw [linked]
      exact Level.currentArea?_setCurrent filled.area (entry.link tables.area)
    case pool => rfl
    case others =>
      intro slot other
      have kept : now.level.current ≠ some slot := by
        rw [filled.rest]
        exact other
      exact (Level.area?_setCurrent_of_ne kept _).trans (filled.others slot other)
    case rest =>
      -- The edit overwrites just what `rest` leaves open, so that it may be done to the start as well.
      let edit (machine : Machine E) : Machine E := { machine with
        level := { machine.level with
          areas := (now.level.setCurrent (entry.link tables.area)).areas
          pool := (tables.take entry).pool } }
      exact congrArg edit filled.rest
  · simp only [full]
    rw [same]
    exact filled.withReporter _

theorem takes (takes : now.Takes offered outcome) : outcome.flow = .ok .next ∧
    start.Filled (offered.elim tables tables.take) outcome.machine := by
  cases offered with
  | none =>
    obtain ⟨reporter, rfl⟩ := takes
    exact ⟨rfl, filled.withReporter reporter⟩
  | some entry =>
    obtain ⟨opcode, rfl⟩ := takes
    refine ⟨?_, filled.addEntry opcode entry⟩
    cases now.addEntry opcode entry.cost entry.link <;> rfl

end Filled

section Handle

variable [Patches E]

def handle (machine : Machine E) (offering : Offering) : Outcome E :=
  machine.dispatchCommand (.canonical offering.opcode) offering.command

def handleAll (machine : Machine E) (offerings : List Offering) : Machine E :=
  offerings.foldl (fun machine offering => (machine.handle offering).machine) machine

theorem handle_of_strays {offering : Offering} {value : Nat} (strays : offering.Strays value)
    (machine : Machine E) : machine.handle offering =
      machine.fault (.read (.notAnAddress offering.command.pointer value)) := by
  rcases offering.readsAs with ⟨_, _, _, straight⟩ | ⟨found, strays', read⟩
  · exact absurd strays (straight value)
  · cases strays.2.1.symm.trans strays'.2.1
    simp only [handle, dispatchCommand, read]

/-- Any other command goes on to the next one, having its entry taken if it offers one. -/
theorem Filled.handle (filled : start.Filled tables now) (offering : Offering) :
    start.Filled ((start.offer? offering).elim tables tables.take) (now.handle offering).machine ∧
      ((∀ value, ¬ offering.Strays value) → (now.handle offering).flow = .ok .next) := by
  have offer := filled.offer? offering
  rcases offering.readsAs with ⟨instruction, read, offers, _⟩ | ⟨value, strays, read⟩
  · have handled : now.handle offering = now.exec instruction offering.command.next := by
      simp only [Machine.handle, dispatchCommand, read]
    have offered : now.offered? instruction = start.offer? offering := by
      rw [← offer]
      simp only [Machine.offer?, read]
    have taken := filled.takes (takes_exec offers offering.command.next now)
    rw [handled, ← offered]
    exact ⟨taken.2, fun _ => taken.1⟩
  · have none : start.offer? offering = none := by simp only [Machine.offer?, read]
    rw [none, handle_of_strays strays]
    exact ⟨filled, fun straight => absurd strays (straight value)⟩

theorem Filled.handleAll (filled : start.Filled tables now) (offerings : List Offering) :
    start.Filled ((offerings.filterMap start.offer?).foldl Tables.take tables)
      (now.handleAll offerings) := by
  induction offerings generalizing tables now with
  | nil => exact filled
  | cons offering rest ih =>
    have further := ih (filled.handle offering).1
    rw [List.filterMap_cons]
    cases offered : start.offer? offering with
    | none =>
      rw [offered] at further
      exact further
    | some entry =>
      rw [offered] at further
      exact further

end Handle

end Machine

theorem Scene.objects_loadArea (scene : Scene) (area : UInt8) (spawns : Array Spawn) :
    ∃ made : List SceneObject,
      (scene.loadArea area spawns).objects.toList = scene.objects.toList ++ made ∧
      made.map (·.spawn) = spawns.toList ∧ ∀ object ∈ made, object.area = area := by
  have each (built : Scene) (listed : List Spawn) : ∃ made : List SceneObject,
      (listed.foldl (addObject area) built).objects.toList = built.objects.toList ++ made ∧
      made.map (·.spawn) = listed ∧ ∀ object ∈ made, object.area = area := by
    induction listed generalizing built with
    | nil => exact ⟨[], by simp⟩
    | cons spawn rest ih =>
      -- The induction goes through the scenes that are built on the way.
      obtain ⟨made, objects, spawns, here⟩ := ih (addObject area built spawn)
      let object : SceneObject := ⟨(built.addNode ⟨.object spawn.model, none⟩).1, area, spawn⟩
      have pushed : (addObject area built spawn).objects = built.objects.push object := rfl
      refine ⟨object :: made, ?_, ?_, ?_⟩
      · rw [List.foldl_cons, objects, pushed]
        simp
      · rw [List.map_cons, spawns]
      · exact List.forall_mem_cons.mpr ⟨rfl, here⟩
  have made := each { scene with loaded := some area } spawns.toList
  unfold loadArea
  rwa [← Array.foldl_toList]

namespace Run

variable {E : Embedding} [Patches E] {run : Run E} {area : Area}

/-- Commands of full size that offer entries leave the tables of the current area and the level pool as
if the entries had been taken in turn, each when there was room for it; all else stays as it is, but
for what is reported. A command goes on to the next one, unless it gives a behavior by a number that
is no address: that is a fault and has no effect. When the area is loaded, the scene gets one object
for each of its spawns, in their order. -/
theorem tables_filledInTurn (hosts : E.HostsMakeLevels) (patches : Machine.PatchesHandle E)
    (attained : run.Attained) (active : run.machine.level.currentArea? = some area)
    (offerings : List Offering) :
    let tables := (offerings.filterMap run.machine.offer?).foldl Tables.take
      ⟨area, run.machine.level.pool⟩
    let after := run.machine.handleAll offerings
    run.machine.Filled tables after ∧
    tables.pool.used ≤ tables.pool.capacity ∧
    (∀ further : Offering,
      (∀ value, further.Strays value → after.handle further =
        after.fault (.read (.notAnAddress further.command.pointer value))) ∧
      ((∀ value, ¬ further.Strays value) → (after.handle further).flow = .ok .next)) ∧
    ∀ load index, run.machine.level.current = some index →
      Instruction.read .loadArea load = .ok (.loadArea index) →
      let loaded := after.dispatchCommand (.canonical .loadArea) load
      loaded.flow = .ok .next ∧ ∃ made : List SceneObject,
        loaded.machine.scene.objects.toList = run.machine.scene.objects.toList ++ made ∧
        made.map (·.spawn) = tables.area.spawns.toList ∧ ∀ object ∈ made, object.area = index := by
  intro tables after
  have begun := Machine.Filled.begin active
  have filled : run.machine.Filled tables after := begun.handleAll offerings
  have fits := (attained.sound hosts patches).level.pool.used_le
  refine ⟨filled, Tables.used_le_foldl fits _, ?_, ?_⟩
  · intro further
    exact ⟨fun value strays => Machine.handle_of_strays strays after, (filled.handle further).2⟩
  · intro load index current read
    have found : after.level.area? index = some tables.area := by
      have named : after.level.current = some index := by
        rw [filled.rest]
        exact current
      have there := filled.area
      rwa [Level.currentArea?, named] at there
    have scene : after.scene = run.machine.scene := by rw [filled.rest]
    have went : after.dispatchCommand (.canonical .loadArea) load = after.loadArea index := by
      simp only [Machine.dispatchCommand, read, Machine.exec]
    rw [went]
    simp only [Machine.loadArea, found]
    rw [← scene]
    exact ⟨rfl, after.scene.objects_loadArea index tables.area.spawns⟩

def opened? (config : Config) (script : Bytes) : Option (Run Scripted.embedding) :=
  let memory := (Memory.ofImage #[] config.mainPoolBytes).calls [.install script]
  let scene := Scene.empty.defineGeometry ⟨0x0E000000⟩ true
  (start ⟨0, 0⟩ (.ofParts config memory .empty scene)).next?

theorem attained_of_opened? {config : Config} {script : Bytes} {run : Run Scripted.embedding}
    (opened : opened? config script = some run) : run.Attained :=
  (Attained.start #[] config.mainPoolBytes [.install script] config .empty _ _ (.refl _)).step opened

def offeringOf (opcode : Opcode) (operands : Bytes) (offers : opcode.offersEntry)
    (few : 2 + operands.size ≤ opcode.size.toNat) : Offering where
  opcode := opcode
  command := ⟨⟨0, 8⟩, opcode.code, opcode.size, #[opcode.code, opcode.size] ++ operands ++
    Array.replicate (opcode.size.toNat - (2 + operands.size)) 0, .standard⟩
  offers := offers
  whole := by
    simp [Command.length, Layout.commandBytes, Layout.standard, PointerWidth.scale]
    omega

/-- Two spawns, a warp node, a whirlpool, and a warp for the slot 1. -/
def crowd : List Offering := [
  offeringOf .placeObject #[0x1F, 5] rfl (by decide),
  offeringOf .placeObject #[0x1F, 6] rfl (by decide),
  offeringOf .createWarpNode #[3] rfl (by decide),
  offeringOf .createWhirlpool #[0] rfl (by decide),
  offeringOf .createInstantWarp #[1] rfl (by decide)]

def loading : Command := ⟨⟨0, 8⟩, 0x27, 4, #[0x27, 4, 0, 0], .standard⟩

def cramped : Config := { Config.standard with levelPoolBytes := 70 }

/-- There is room for one spawn and for both of the warps. -/
theorem tables_filledInTurn_cramped : ∃ run area filled after,
    opened? cramped #[0x1D, 8, 0, 0, 0, 0, 0, 14] = some run ∧ run.Attained ∧
      run.machine.level.currentArea? = some area ∧ after = run.machine.handleAll crowd ∧
      after.level.currentArea? = some filled ∧ after.level.pool = ⟨70, 69⟩ ∧
      (filled.spawns.toList.map (·.model) = [5] ∧ filled.warpNodes.toList.map (·.id) = [3] ∧
        filled.instantWarps[1].isSome ∧ filled.whirlpools[0] = none) ∧
      ∃ made : List SceneObject,
        (after.dispatchCommand (.canonical .loadArea) loading).machine.scene.objects.toList =
          run.machine.scene.objects.toList ++ made ∧
        made.map (·.spawn) = filled.spawns.toList := by
  let run := (opened? cramped #[0x1D, 8, 0, 0, 0, 0, 0, 14]).get (by decide +kernel)
  have opened : opened? cramped #[0x1D, 8, 0, 0, 0, 0, 0, 14] = some run := (Option.some_get _).symm
  let area := run.machine.level.currentArea?.get (by decide +kernel)
  have active : run.machine.level.currentArea? = some area := (Option.some_get _).symm
  have attained := attained_of_opened? opened
  obtain ⟨filled, _, _, loads⟩ := tables_filledInTurn Machine.hostsMakeLevels_scripted
    Machine.patchesHandle_scripted attained active crowd
  obtain ⟨_, made, objects, spawns, _⟩ := loads loading 0 (by decide +kernel) rfl
  refine ⟨run, area, _, _, opened, attained, active, rfl, filled.area, ?_, ?_, made, objects, spawns⟩
  · rw [filled.pool]
    decide +kernel
  · decide +kernel

/-- Places an object in all acts, with a number for its behavior that has more than 32 bits. -/
def straying : Offering where
  opcode := .placeObject
  command := ⟨⟨0, 16⟩, 0x22, 24, #[0x22, 24, 0x1F, 5] ++ Array.replicate 40 0 ++ #[1, 0, 0, 0],
    ⟨.wide, .little⟩⟩
  offers := rfl
  whole := by decide

def spacious : Config := { Config.standard with layout := ⟨.wide, .little⟩ }

/-- The mask selects the act and there is room for the spawn, but the command faults. -/
theorem spawn_strays : ∃ run area,
    opened? spacious #[0x1D, 8, 0, 0, 0, 0, 0, 0, 0, 0, 0, 14, 0, 0, 0, 0] = some run ∧
      run.Attained ∧ run.machine.level.currentArea? = some area ∧
      straying.command.length = straying.command.layout.commandBytes straying.opcode.size ∧
      straying.command.u8 2 = .ok allActs ∧ Spawn.cost ≤ run.machine.level.pool.available ∧
      run.machine.handle straying =
        run.machine.fault (.read (.notAnAddress ⟨0, 16⟩ 0x100000000)) := by
  let script : Bytes := #[0x1D, 8, 0, 0, 0, 0, 0, 0, 0, 0, 0, 14, 0, 0, 0, 0]
  let run := (opened? spacious script).get (by decide +kernel)
  have opened : opened? spacious script = some run := (Option.some_get _).symm
  let area := run.machine.level.currentArea?.get (by decide +kernel)
  have active : run.machine.level.currentArea? = some area := (Option.some_get _).symm
  have strays : straying.Strays 0x100000000 := ⟨rfl, by decide +kernel, by decide⟩
  exact ⟨run, area, opened, attained_of_opened? opened, active, by decide, by decide +kernel,
    by decide +kernel, Machine.handle_of_strays strays run.machine⟩

end Run

end StageScript
