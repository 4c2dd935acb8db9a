import StageScript.Proofs.Areas
import StageScript.Proofs.Handles

/-!
References to areas and to nodes of the scene. A level names its areas by their slots, and areas,
objects and the player name their nodes by handles. Clearing the level makes every handle stale at
once, and it also drops everything that has a handle, so that none is left over. All other commands
only add nodes.
-/

namespace StageScript

namespace Scene

variable {scene between after : Scene}

/-- Each object has a node of its own, made for the model of its spawn, and the player has one. -/
structure Linked (scene : Scene) : Prop where
  objects : ∀ object ∈ scene.objects.toList,
    scene.nodes.get? object.node = some ⟨.object object.spawn.model, none⟩
  distinct : scene.objects.toList.Pairwise fun object other => object.node ≠ other.node
  player : ∀ handle, scene.player = some handle →
    ∃ model, scene.nodes.get? handle = some ⟨.player model, none⟩

structure Shows (scene : Scene) (area : Area) : Prop where
  root : scene.nodes.get? area.root.node = some ⟨.areaRoot area.index, none⟩
  camera : ∀ camera, area.root.camera = some camera →
    scene.nodes.get? camera = some ⟨.camera, some area.root.node⟩

theorem Shows.extended {old area : Area} (shows : scene.Shows old)
    (nodes : scene.nodes.Extends after.nodes) (index : area.index = old.index)
    (root : area.root = old.root) : after.Shows area where
  root := by
    rw [index, root]
    exact nodes.found _ _ shows.root
  camera camera has := by
    rw [root] at has ⊢
    exact nodes.found _ _ (shows.camera camera has)

theorem Linked.extended (linked : scene.Linked) (nodes : scene.nodes.Extends after.nodes)
    (objects : after.objects.toList.Sublist scene.objects.toList)
    (player : ∀ handle, after.player = some handle → scene.player = some handle) :
    after.Linked where
  objects object member := nodes.found _ _ (linked.objects object (objects.subset member))
  distinct := linked.distinct.sublist objects
  player handle has := by
    obtain ⟨model, found⟩ := linked.player handle (player handle has)
    exact ⟨model, nodes.found _ _ found⟩

/-- Nodes have only been added, and nothing has come to refer to one that is not there, as long as
handles can tell all nodes apart. -/
structure Grows (before after : Scene) : Prop where
  nodes : before.nodes.Extends after.nodes
  linked : after.nodes.size ≤ limit32 → before.Linked → after.Linked

namespace Grows

theorem refl (scene : Scene) : scene.Grows scene :=
  ⟨.refl _, fun _ linked => linked⟩

theorem trans (first : scene.Grows between) (second : between.Grows after) : scene.Grows after where
  nodes := first.nodes.trans second.nodes
  linked small linked :=
    second.linked small (first.linked (Nat.le_trans second.nodes.size small) linked)

theorem of_extends (nodes : scene.nodes.Extends after.nodes)
    (objects : after.objects.toList.Sublist scene.objects.toList)
    (player : ∀ handle, after.player = some handle → scene.player = some handle) :
    scene.Grows after :=
  ⟨nodes, fun _ linked => linked.extended nodes objects player⟩

end Grows

theorem grows_addNode (scene : Scene) (node : Node) : scene.Grows (scene.addNode node).2 :=
  .of_extends (scene.nodes.extends_allocate node) (.refl _) fun _ has => has

theorem grows_loadModel {model : UInt16} {source : ModelSource}
    (loaded : scene.loadModel model source = .ok after) : scene.Grows after := by
  unfold loadModel at loaded
  split at loaded
  next => cases loaded
  next =>
    cases loaded
    exact .of_extends (.refl _) (.refl _) fun _ has => has

theorem grows_initPlayer (scene : Scene) (model : UInt8) : scene.Grows (scene.initPlayer model) where
  nodes := scene.nodes.extends_allocate _
  linked small linked := by
    have nodes := scene.nodes.extends_allocate ⟨.player model, none⟩
    have room : scene.nodes.size < limit32 := by
      have more := scene.nodes.size_allocate ⟨.player model, none⟩
      change (scene.nodes.allocate ⟨.player model, none⟩).2.size ≤ limit32 at small
      omega
    refine ⟨fun object member => nodes.found _ _ (linked.objects object member), linked.distinct, ?_⟩
    rintro handle ⟨⟩
    exact ⟨model, Arena.get?_allocate room _⟩

/-- A new object cannot share the node of another one, whose handle finds that node already. -/
theorem grows_addObject (scene : Scene) (area : UInt8) (spawn : Spawn) :
    scene.Grows (addObject area scene spawn) where
  nodes := scene.nodes.extends_allocate _
  linked small linked := by
    let node : Node := ⟨.object spawn.model, none⟩
    have nodes := scene.nodes.extends_allocate node
    have room : scene.nodes.size < limit32 := by
      have more := scene.nodes.size_allocate node
      change (scene.nodes.allocate node).2.size ≤ limit32 at small
      omega
    have pushed : (addObject area scene spawn).objects.toList =
        scene.objects.toList ++ [⟨(scene.nodes.allocate node).1, area, spawn⟩] := Array.toList_push
    constructor
    case objects =>
      intro object member
      rw [pushed, List.mem_append, List.mem_singleton] at member
      rcases member with old | rfl
      · exact nodes.found _ _ (linked.objects object old)
      · exact Arena.get?_allocate room node
    case distinct =>
      rw [pushed, List.pairwise_append]
      refine ⟨linked.distinct, List.pairwise_singleton _ _, fun object old added new shared => ?_⟩
      cases List.mem_singleton.mp new
      have there := linked.objects object old
      rw [shared, Arena.get?_allocate_before room node] at there
      cases there
    case player =>
      intro handle has
      obtain ⟨model, found⟩ := linked.player handle has
      exact ⟨model, nodes.found _ _ found⟩

theorem grows_loadArea (scene : Scene) (area : UInt8) (spawns : Array Spawn) :
    scene.Grows (scene.loadArea area spawns) := by
  unfold loadArea
  refine Array.foldl_induction (fun _ (built : Scene) => scene.Grows built) ?_ ?_
  · exact .of_extends (.refl _) (.refl _) fun _ has => has
  · intro index built grows
    exact grows.trans (built.grows_addObject area _)

theorem grows_unloadArea (scene : Scene) (area : UInt8) : scene.Grows (scene.unloadArea area) := by
  refine .of_extends (.refl _) ?_ fun _ has => has
  have kept : (scene.unloadArea area).objects.toList =
    scene.objects.toList.filter (·.area != area) := Array.toList_filter
  rw [kept]
  exact List.filter_sublist

theorem grows_unloadPlayerArea (scene : Scene) : scene.Grows scene.unloadPlayerArea :=
  .of_extends (.refl _) (.refl _) nofun

theorem linked_clearObjects (scene : Scene) : scene.clearObjects.Linked where
  objects := nofun
  distinct := .nil
  player := nofun

theorem grows_buildArea {index : UInt8} {geometry : Address} {root : SceneRoot}
    (built : scene.buildArea index geometry = .ok (root, after)) : scene.Grows after ∧
      (after.nodes.size ≤ limit32 → after.Shows (.fresh index geometry root)) := by
  let node : Node := ⟨.areaRoot index, none⟩
  have rooted (room : scene.nodes.size < limit32) := Arena.get?_allocate room node
  have larger := scene.nodes.size_allocate node
  unfold buildArea at built
  split at built
  next => cases built
  next camera _ =>
    simp only at built
    split at built
    next =>
      cases built
      let seen : Node := ⟨.camera, some (scene.addNode node).1⟩
      have filmed := (scene.addNode node).2.grows_addNode seen
      refine ⟨(scene.grows_addNode node).trans filmed, fun small => ?_⟩
      have more := (scene.nodes.allocate node).2.size_allocate seen
      change ((scene.nodes.allocate node).2.allocate seen).2.size ≤ limit32 at small
      refine ⟨filmed.nodes.found _ _ (rooted (by omega)), ?_⟩
      rintro camera ⟨⟩
      have room : (scene.nodes.allocate node).2.size < limit32 := by omega
      exact Arena.get?_allocate room seen
    next =>
      cases built
      refine ⟨scene.grows_addNode node, fun small => ⟨rooted ?_, nofun⟩⟩
      change (scene.nodes.allocate node).2.size ≤ limit32 at small
      omega

/-- The scenes that can be made by what can be done with scenes. -/
inductive Made : Scene → Prop where
  | empty : Made .empty
  | defineGeometry {scene : Scene} (address : Address) (hasCamera : Bool) (made : Made scene) :
    Made (scene.defineGeometry address hasCamera)
  | initLevel {scene : Scene} (made : Made scene) : Made scene.initLevel
  | clearObjects {scene : Scene} (made : Made scene) : Made scene.clearObjects
  | buildArea {scene after : Scene} {area : UInt8} {geometry : Address} {root : SceneRoot}
    (made : Made scene) (built : scene.buildArea area geometry = .ok (root, after)) : Made after
  | loadModel {scene after : Scene} {model : UInt16} {source : ModelSource} (made : Made scene)
    (loaded : scene.loadModel model source = .ok after) : Made after
  | initPlayer {scene : Scene} (model : UInt8) (made : Made scene) : Made (scene.initPlayer model)
  | loadArea {scene : Scene} (area : UInt8) (spawns : Array Spawn) (made : Made scene) :
    Made (scene.loadArea area spawns)
  | unloadArea {scene : Scene} (area : UInt8) (made : Made scene) : Made (scene.unloadArea area)
  | unloadPlayerArea {scene : Scene} (made : Made scene) : Made scene.unloadPlayerArea
  | updateObjects {scene : Scene} (made : Made scene) : Made scene.updateObjects

theorem Made.linked (made : scene.Made) (small : scene.nodes.size ≤ limit32) : scene.Linked := by
  have grown {before after : Scene} (grows : before.Grows after)
      (ih : before.nodes.size ≤ limit32 → before.Linked) (small : after.nodes.size ≤ limit32) :
      after.Linked :=
    grows.linked small (ih (Nat.le_trans grows.nodes.size small))
  induction made with
  | empty => exact ⟨nofun, .nil, nofun⟩
  | clearObjects => exact linked_clearObjects _
  | defineGeometry _ _ _ ih | initLevel _ ih | updateObjects _ ih =>
    exact (ih small).extended (.refl _) (.refl _) fun _ has => has
  | buildArea _ built ih => exact grown (grows_buildArea built).1 ih small
  | loadModel _ loaded ih => exact grown (grows_loadModel loaded) ih small
  | initPlayer model _ ih => exact grown (grows_initPlayer _ model) ih small
  | loadArea area spawns _ ih => exact grown (grows_loadArea _ area spawns) ih small
  | unloadArea area _ ih => exact grown (grows_unloadArea _ area) ih small
  | unloadPlayerArea _ ih => exact grown (grows_unloadPlayerArea _) ih small

end Scene

namespace Level

variable {level after : Level}

/-- Each area stands in the slot of its index, and the level names no slot that is empty. -/
structure Placed (level : Level) : Prop where
  index : ∀ slot area, level.area? slot = some area → area.index = slot
  current : ∀ slot, level.current = some slot → (level.area? slot).isSome
  loaded : ∀ slot, level.loaded = some slot → (level.area? slot).isSome

structure SameAreas (before after : Level) : Prop where
  areas : after.areas = before.areas
  current : after.current = before.current
  loaded : after.loaded = before.loaded

/-- The level is in order and has no area that was not there before, with the same nodes. -/
structure Retains (before after : Level) : Prop where
  areas : ∀ slot area, after.area? slot = some area →
    ∃ old, before.area? slot = some old ∧ area.index = old.index ∧ area.root = old.root
  placed : after.Placed

theorem area?_of_areas (areas : after.areas = level.areas) (slot : UInt8) :
    after.area? slot = level.area? slot := by
  unfold area?
  rw [areas]

theorem area?_setArea (level : Level) (index slot : UInt8) (area : Area) :
    (level.setArea index area).area? slot =
      if index = slot ∧ index.toNat < areaCount then some area else level.area? slot := by
  have same : index.toNat = slot.toNat ↔ index = slot := UInt8.toNat_inj
  unfold area? setArea
  simp only [Vector.getElem?_setIfInBounds]
  by_cases here : index = slot
  · subst here
    by_cases inside : index.toNat < areaCount
    · simp [inside]
    · simp [inside]
  · simp [same, here]

theorem setCurrent_eq_setArea {slot : UInt8} (named : level.current = some slot) (area : Area) :
    level.setCurrent area = level.setArea slot area := by
  simp only [setCurrent, setArea, named]

theorem area?_clearAreas (level : Level) (slot : UInt8) : level.clearAreas.area? slot = none := by
  unfold area? clearAreas
  simp only [Vector.getElem?_replicate]
  split <;> rfl

theorem retains_clearAreas (level : Level) : level.Retains level.clearAreas where
  areas slot area found := by
    rw [area?_clearAreas] at found
    cases found
  placed := {
    index slot area found := by
      rw [area?_clearAreas] at found
      cases found
    current := nofun
    loaded := nofun }

theorem placed_ofPool (bytes : Nat) : (ofPool bytes).Placed :=
  (retains_clearAreas (ofPool bytes)).placed

theorem area?_beginArea {area found : Area} {slot : UInt8}
    (there : (level.beginArea area).area? slot = some found) :
    found = area ∧ slot = area.index ∨ level.area? slot = some found := by
  unfold beginArea at there
  split at there
  next =>
    change (level.setArea area.index area).area? slot = some found at there
    rw [area?_setArea] at there
    split at there
    next same => exact .inl ⟨(Option.some.inj there).symm, same.1.symm⟩
    next => exact .inr there
  next => exact .inr there

section Placed

variable (placed : level.Placed)
include placed

theorem Placed.retains_of_areas (areas : after.areas = level.areas)
    (current : ∀ slot, after.current = some slot → level.current = some slot)
    (loaded : ∀ slot, after.loaded = some slot →
      level.loaded = some slot ∨ (level.area? slot).isSome) : level.Retains after where
  areas slot area found := by
    rw [area?_of_areas areas] at found
    exact ⟨area, found, rfl, rfl⟩
  placed := {
    index slot area found := by
      rw [area?_of_areas areas] at found
      exact placed.index slot area found
    current slot named := by
      rw [area?_of_areas areas]
      exact placed.current slot (current slot named)
    loaded slot named := by
      rw [area?_of_areas areas]
      exact (loaded slot named).elim (placed.loaded slot) id }

theorem Placed.retains (same : level.SameAreas after) : level.Retains after :=
  placed.retains_of_areas same.areas (fun _ named => same.current ▸ named)
    fun _ named => .inl (same.loaded ▸ named)

theorem Placed.retains_setCurrent {area changed : Area} (filled : level.currentArea? = some area)
    (index : changed.index = area.index) (root : changed.root = area.root) :
    level.Retains (level.setCurrent changed) := by
  obtain ⟨slot, named, found⟩ := Option.bind_eq_some_iff.mp filled
  have here := placed.index slot area found
  rw [setCurrent_eq_setArea named]
  have there (other : UInt8) : ((level.setArea slot changed).area? other).isSome =
      (level.area? other).isSome := by
    rw [area?_setArea]
    split
    next same =>
      rw [← same.1, found]
      rfl
    next => rfl
  constructor
  case areas =>
    intro other new set
    rw [area?_setArea] at set
    split at set
    next same =>
      cases set
      exact ⟨area, by rw [← same.1, found], index, root⟩
    next => exact ⟨new, set, rfl, rfl⟩
  case placed =>
    refine ⟨fun other new set => ?_, fun other named => ?_, fun other named => ?_⟩
    · rw [area?_setArea] at set
      split at set
      next same =>
        cases set
        exact index.trans (here.trans same.1)
      next => exact placed.index other new set
    · exact there other ▸ placed.current other named
    · exact there other ▸ placed.loaded other named

theorem Placed.beginArea (area : Area) : (level.beginArea area).Placed := by
  unfold Level.beginArea
  split
  next inside =>
    have set (slot : UInt8) : Level.area? { level.setArea area.index area with
        current := some area.index } slot =
        if area.index = slot then some area else level.area? slot := by
      change (level.setArea area.index area).area? slot = _
      rw [area?_setArea]
      simp only [inside, and_true]
    constructor
    case index =>
      intro slot found there
      rw [set] at there
      split at there
      next same =>
        cases there
        exact same
      next => exact placed.index slot found there
    case current =>
      rintro slot ⟨⟩
      rw [set, if_pos rfl]
      rfl
    case loaded =>
      intro slot named
      rw [set]
      split
      next => rfl
      next => exact placed.loaded slot named
  next => exact placed

end Placed

end Level

def Embedding.SparesAreas (E : Embedding) (function : E.HostFn) : Prop :=
  ∀ later, E.Becomes function later → ∀ (context : HostContext) argument register,
    context.level.SameAreas (E.callHost later context argument register).context.level

theorem Embedding.SparesAreas.later {E : Embedding} {function : E.HostFn}
    (spares : E.SparesAreas function) (context : HostContext) (argument : Int16) (register : Int32) :
    E.SparesAreas (E.callHost function context argument register).later :=
  fun later becomes => spares later (.head ⟨context, argument, register, rfl⟩ becomes)

namespace Machine

variable {E : Embedding} {machine between after : Machine E}

/-- The areas are in order, and so are the references to nodes as long as handles can tell all nodes
of the scene apart. -/
structure Coherent (machine : Machine E) : Prop where
  placed : machine.level.Placed
  linked : machine.scene.nodes.size ≤ limit32 → machine.scene.Linked
  shown : machine.scene.nodes.size ≤ limit32 → ∀ slot area,
    machine.level.area? slot = some area → machine.scene.Shows area

structure Carries (before after : Machine E) : Prop where
  level : before.level.Retains after.level
  scene : before.scene.Grows after.scene

theorem Coherent.of_carries (coherent : machine.Coherent) (carries : machine.Carries after) :
    after.Coherent where
  placed := carries.level.placed
  linked small := carries.scene.linked small
    (coherent.linked (Nat.le_trans carries.scene.nodes.size small))
  shown small slot area found := by
    obtain ⟨old, there, index, root⟩ := carries.level.areas slot area found
    have shows := coherent.shown (Nat.le_trans carries.scene.nodes.size small) slot old there
    exact shows.extended carries.scene.nodes index root

section Carries

variable (placed : machine.level.Placed)
include placed

theorem Carries.of_same (level : machine.level.SameAreas after.level)
    (scene : after.scene = machine.scene) : machine.Carries after :=
  ⟨placed.retains level, scene ▸ .refl _⟩

theorem Carries.of_parts (level : after.level = machine.level)
    (scene : after.scene = machine.scene) : machine.Carries after :=
  .of_same placed ⟨by rw [level], by rw [level], by rw [level]⟩ scene

theorem Carries.of_scene (level : after.level.areas = machine.level.areas)
    (current : after.level.current = machine.level.current)
    (loaded : ∀ slot, after.level.loaded = some slot →
      machine.level.loaded = some slot ∨ (machine.level.area? slot).isSome)
    (scene : machine.scene.Grows after.scene) : machine.Carries after :=
  ⟨placed.retains_of_areas level (fun _ named => current ▸ named) loaded, scene⟩

theorem attempt_carries {change : Except Diagnostic (Machine E)}
    (ensures : Ensures machine.Carries change) : machine.Carries (machine.attempt change).machine :=
  attempt_keeps (fun _ => .of_parts placed rfl rfl) ensures

def KeepsPlace (change : Area → Area) : Prop :=
  ∀ area, (change area).index = area.index ∧ (change area).root = area.root

theorem editArea_carries (opcode : Opcode) {change : Area → Area} (keeps : KeepsPlace change) :
    Ensures machine.Carries (machine.editArea opcode change) := by
  intro after changed
  unfold editArea at changed
  split at changed
  next => cases changed
  next area filled =>
    cases changed
    exact ⟨placed.retains_setCurrent filled (keeps area).1 (keeps area).2, .refl _⟩

theorem addEntry_carries (opcode : Opcode) (cost : Nat) {link : Area → Area}
    (keeps : KeepsPlace link) : Ensures machine.Carries (machine.addEntry opcode cost link) := by
  intro after added
  unfold addEntry at added
  split at added
  next => cases added
  next area filled =>
    split at added
    next => cases added
    next pool _ =>
      cases added
      have edited := placed.retains_setCurrent filled (keeps area).1 (keeps area).2
      exact ⟨⟨edited.areas, ⟨edited.placed.index, edited.placed.current, edited.placed.loaded⟩⟩,
        .refl _⟩

theorem placeSpawn_carries (opcode : Opcode) (spawn : Spawn) :
    Ensures machine.Carries (machine.placeSpawn opcode spawn) := by
  intro after put
  unfold placeSpawn at put
  split at put
  next =>
    have keeps : KeepsPlace fun area => { area with spawns := area.spawns.push spawn } :=
      fun _ => ⟨rfl, rfl⟩
    exact addEntry_carries placed opcode _ keeps after put
  next =>
    cases put
    exact .of_parts placed rfl rfl

theorem placeObjectExt2_carries (position angle : Vec3) (behaviorArg modelToken : UInt32)
    (behaviorToken : Except ReadFault UInt32) (acts : UInt8) :
    machine.Carries (machine.placeObjectExt2 position angle behaviorArg modelToken behaviorToken
      acts).machine := by
  unfold placeObjectExt2
  split
  next => exact .of_parts placed rfl rfl
  next =>
    split
    next => exact .of_parts placed rfl rfl
    next => exact attempt_carries placed (ensures_bind fun _ => placeSpawn_carries placed _ _)

theorem loadModel_carries (opcode : Opcode) (model : UInt16) (source : ModelSource) :
    Ensures machine.Carries (machine.loadModel opcode model source) := by
  intro after loaded
  unfold loadModel at loaded
  split at loaded
  next => cases loaded
  next scene succeeded =>
    cases loaded
    exact ⟨placed.retains ⟨rfl, rfl, rfl⟩, Scene.grows_loadModel succeeded⟩

theorem endArea_carries : machine.Carries machine.endArea.machine := by
  refine attempt_carries placed fun after ended => ?_
  split at ended
  next => cases ended
  next =>
    cases ended
    refine ⟨placed.retains_of_areas rfl ?_ fun _ => .inl, .refl _⟩
    rintro slot ⟨⟩

theorem loadArea_carries (index : UInt8) : machine.Carries (machine.loadArea index).machine := by
  refine attempt_carries placed fun after loaded => ?_
  split at loaded
  next => cases loaded
  next area found =>
    cases loaded
    refine .of_scene placed rfl rfl ?_ (machine.scene.grows_loadArea index area.spawns)
    rintro slot ⟨⟩
    exact .inr (Option.isSome_of_eq_some found)

theorem unloadArea_carries : machine.Carries machine.unloadArea.machine := by
  unfold unloadArea
  split
  next => exact .of_parts placed rfl rfl
  next index _ =>
    refine .of_scene placed rfl rfl ?_ (machine.scene.grows_unloadArea index)
    rintro slot ⟨⟩

theorem getOrSet_carries (mode var : UInt8) : machine.Carries (machine.getOrSet mode var).machine := by
  refine attempt_carries placed fun after changed => ?_
  split at changed
  next => cases changed
  next =>
    split at changed
    next =>
      cases changed
      exact .of_same placed ⟨rfl, rfl, rfl⟩ rfl
    next =>
      split at changed <;> cases changed
      exact .of_parts placed rfl rfl

section Hosts

variable (hosts : machine.AllHosts E.SparesAreas)
include hosts

theorem invokeHost_carries {id : UInt32} {argument : Int16} {value : Int32}
    (called : machine.invokeHost id argument = .ok (value, after)) : machine.Carries after := by
  unfold invokeHost at called
  split at called
  next => cases called
  next function known =>
    cases called
    have spared := hosts id function known function .refl
      ⟨machine.overrides, machine.level, machine.activeOwner, #[]⟩ argument machine.context.register
    exact .of_same placed spared rfl

theorem call_carries (argument : Int16) (function : UInt32) :
    machine.Carries (machine.call argument function).machine := by
  unfold call
  split
  next => exact .of_parts placed rfl rfl
  next value called answered =>
    have carries := invokeHost_carries placed hosts answered
    exact ⟨carries.level, carries.scene⟩

theorem callLoop_carries (argument : Int16) (function : UInt32) :
    machine.Carries (machine.callLoop argument function).machine := by
  unfold callLoop
  split
  next => exact .of_parts placed rfl rfl
  next value called answered =>
    have carries := invokeHost_carries placed hosts answered
    have same := holdWhileZero_sameExcept value (called.setRegister value)
    constructor
    case level =>
      rw [same.level (by simp)]
      exact carries.level
    case scene =>
      rw [same.scene (by simp)]
      exact carries.scene

end Hosts

end Carries

theorem Coherent.of_sameExcept {parts : List Part} (coherent : machine.Coherent)
    (same : machine.SameExcept parts after) (level : .level ∉ parts) (scene : .scene ∉ parts) :
    after.Coherent :=
  coherent.of_carries (.of_parts coherent.placed (same.level level) (same.scene scene))

theorem coherent_clearLevel (machine : Machine E) : machine.clearLevel.machine.Coherent := by
  let cleared := { machine with
    scene := machine.scene.clearObjects
    level := machine.level.clearAreas }
  have emptied : cleared.Coherent := {
    placed := machine.level.retains_clearAreas.placed
    linked _ := machine.scene.linked_clearObjects
    shown _ slot area found := by
      rw [Level.area?_clearAreas] at found
      cases found }
  exact emptied.of_sameExcept (popCheckpoint_sameExcept .clearLevel cleared) (by simp) (by simp)

namespace Coherent

variable (coherent : machine.Coherent)
include coherent

theorem beginArea (index : UInt8) (geometry : Address) :
    (machine.beginArea index geometry).machine.Coherent := by
  have same : ∀ diagnostic, (machine.report diagnostic).Coherent :=
    fun _ => coherent.of_carries (.of_parts coherent.placed rfl rfl)
  unfold Machine.beginArea
  split
  next => exact same _
  next =>
    split
    next => exact same _
    next root scene succeeded =>
      obtain ⟨grows, shows⟩ := Scene.grows_buildArea succeeded
      let built := { machine with
        scene
        level := machine.level.beginArea (.fresh index geometry root) }
      have begun : built.Coherent := {
        placed := coherent.placed.beginArea _
        linked small := grows.linked small (coherent.linked (Nat.le_trans grows.nodes.size small))
        shown small slot area there := by
          rcases Level.area?_beginArea there with ⟨rfl, _⟩ | old
          · exact shows small
          · have before := coherent.shown (Nat.le_trans grows.nodes.size small) slot area old
            exact before.extended grows.nodes rfl rfl }
      split
      next => exact begun.of_carries (.of_parts begun.placed rfl rfl)
      next => exact begun

/-- No instruction leaves a reference behind to what is not there. -/
theorem exec (hosts : machine.AllHosts E.SparesAreas) (instruction : Instruction)
    (following : Pointer) : (machine.exec instruction following).machine.Coherent := by
  have placed := coherent.placed
  cases instruction with
  | clearLevel => exact machine.coherent_clearLevel
  | beginArea index geometry => exact coherent.beginArea index geometry
  | initLevel =>
    have kept : machine.scene.Grows machine.scene.initLevel :=
      .of_extends (.refl _) (.refl _) fun _ has => has
    exact coherent.of_carries ⟨machine.level.retains_clearAreas, kept⟩
  | loadArea index => exact coherent.of_carries (loadArea_carries placed index)
  | unloadArea => exact coherent.of_carries (unloadArea_carries placed)
  | call argument function => exact coherent.of_carries (call_carries placed hosts argument function)
  | callLoop argument function =>
    exact coherent.of_carries (callLoop_carries placed hosts argument function)
  | endArea => exact coherent.of_carries (endArea_carries placed)
  | getOrSet mode var => exact coherent.of_carries (getOrSet_carries placed mode var)
  | initPlayer player =>
    exact coherent.of_carries
      (.of_scene placed rfl rfl (fun _ => .inl) (machine.scene.grows_initPlayer player.model))
  | unloadPlayerArea =>
    exact coherent.of_carries
      (.of_scene placed rfl rfl (fun _ => .inl) machine.scene.grows_unloadPlayerArea)
  | loadModelFromDl | loadModelFromGeo | loadModelScaled =>
    exact coherent.of_carries (attempt_carries placed (loadModel_carries placed _ _ _))
  | loadModelFromGeoExt =>
    exact coherent.of_carries
      (attempt_carries placed (ensures_bind fun _ => loadModel_carries placed _ _ _))
  | placeObject spawn =>
    exact coherent.of_carries (attempt_carries placed (placeSpawn_carries placed _ _))
  | placeObjectExt =>
    exact coherent.of_carries
      (attempt_carries placed (ensures_bind fun _ => placeSpawn_carries placed _ _))
  | placeObjectExt2 => exact coherent.of_carries (placeObjectExt2_carries placed _ _ _ _ _ _)
  | createWarpNode node =>
    exact coherent.of_carries
      (attempt_carries placed (addEntry_carries placed _ _ fun _ => ⟨rfl, rfl⟩))
  | createPaintingWarpNode | createInstantWarp | createWhirlpool =>
    exact coherent.of_carries (attempt_carries placed
      (ensures_inSlot _ _ _ fun _ => addEntry_carries placed _ _ fun _ => ⟨rfl, rfl⟩))
  | showDialog =>
    exact coherent.of_carries (attempt_carries placed
      (ensures_inSlot _ _ _ fun _ => editArea_carries placed _ fun _ => ⟨rfl, rfl⟩))
  | setTerrainData | setRooms | setTerrainType | setMusic | setMacroObjects =>
    exact coherent.of_carries
      (attempt_carries placed (editArea_carries placed _ fun _ => ⟨rfl, rfl⟩))
  | allocLevelPool | freeLevelPool | setPlayerStartPos =>
    exact coherent.of_carries (.of_same placed ⟨rfl, rfl, rfl⟩ rfl)
  | updateObjects =>
    exact coherent.of_carries (.of_scene placed rfl rfl (fun _ => .inl)
      (.of_extends (.refl _) (.refl _) fun _ has => has))
  | _ =>
    -- What is left has neither the level nor the scene in its footprint.
    exact coherent.of_sameExcept (exec_sameExcept _ following machine)
      (by simp [Instruction.footprint]) (by simp [Instruction.footprint])

end Coherent

/-- A change by a host that leaves the areas and the scene alone, and brings in no host function that
does not. -/
structure KeepsAreas (before after : Machine E) : Prop where
  level : before.level.SameAreas after.level
  scene : after.scene = before.scene
  hosts : before.AllHosts E.SparesAreas → after.AllHosts E.SparesAreas

/-- What a handler of the host comes to that leaves the areas to the commands: such changes, and
running instructions. -/
inductive LeavesAreas : Machine E → Machine E → Prop where
  | keeps {before after : Machine E} (kept : before.KeepsAreas after) : LeavesAreas before after
  | exec (before : Machine E) (instruction : Instruction) (following : Pointer) :
    LeavesAreas before (before.exec instruction following).machine
  | trans {before between after : Machine E} (first : LeavesAreas before between)
    (second : LeavesAreas between after) : LeavesAreas before after

/-- The machine is coherent, and its host functions will not change that. -/
structure Tidy (machine : Machine E) : Prop where
  coherent : machine.Coherent
  hosts : machine.AllHosts E.SparesAreas

namespace Tidy

variable (tidy : machine.Tidy)
include tidy

theorem of_keepsAreas (kept : machine.KeepsAreas after) : after.Tidy where
  coherent := tidy.coherent.of_carries (.of_same tidy.coherent.placed kept.level kept.scene)
  hosts := kept.hosts tidy.hosts

theorem of_sameExcept {parts : List Part} (same : machine.SameExcept parts after)
    (others : .level ∉ parts ∧ .scene ∉ parts ∧ .hosts ∉ parts) : after.Tidy where
  coherent := tidy.coherent.of_sameExcept same others.1 others.2.1
  hosts := tidy.hosts.of_hosts (same.hosts others.2.2)

theorem exec (instruction : Instruction) (following : Pointer) :
    (machine.exec instruction following).machine.Tidy where
  coherent := tidy.coherent.exec tidy.hosts instruction following
  hosts := tidy.hosts.exec (fun _ spares => spares.later) instruction following

theorem of_leavesAreas (leaves : machine.LeavesAreas after) : after.Tidy := by
  induction leaves with
  | keeps kept => exact tidy.of_keepsAreas kept
  | exec before instruction following => exact tidy.exec instruction following
  | trans _ _ first second => exact second (first tidy)

end Tidy

def PatchesLeaveAreas (E : Embedding) [Patches E] : Prop :=
  ∀ (patch : E.Patch) (command : Command) (machine : Machine E),
    machine.LeavesAreas (Patches.run patch command machine).machine

theorem Tidy.step [Patches E] (patches : PatchesLeaveAreas E) (tidy : machine.Tidy)
    (canonical : Bool) (cursor : Pointer) : (machine.step canonical cursor).2.Tidy := by
  have paused : (machine.setStatus .paused).Tidy :=
    ⟨tidy.coherent.of_carries (.of_parts tidy.coherent.placed rfl rfl), tidy.hosts.of_hosts rfl⟩
  refine step_keeps tidy paused ?_ ?_
  · intro handler command _
    cases handler with
    | patch patch => exact tidy.of_leavesAreas (patches patch command machine)
    | canonical opcode => exact dispatchCommand_keeps tidy (tidy.exec · command.next)
  · intro pointer after settled
    exact settled.of_sameExcept (after.followOverrides_sameExcept pointer) (by simp)

theorem tidy_ofParts (config : Config) (memory : Memory) (tokens : TokenTable E.TokenFn)
    {scene : Scene} (made : scene.Made) :
    (ofParts config memory tokens scene : Machine E).Tidy where
  coherent := {
    placed := Level.placed_ofPool _
    linked := made.linked
    shown _ slot area found := by
      rw [show (ofParts config memory tokens scene : Machine E).level.area? slot = none from
        Level.area?_clearAreas (.ofPool _) slot] at found
      cases found }
  hosts id function found := by
    change (∅ : Std.TreeMap UInt32 E.HostFn)[id]? = some function at found
    rw [Std.TreeMap.getElem?_emptyc] at found
    cases found

end Machine

namespace Run

variable {E : Embedding} [Patches E] {run next : Run E}

/-- The runs that a machine over a scene can come to whose host leaves the areas to the scripts. -/
inductive Staged : Run E → Prop where
  | start {machine : Machine E} {scene : Scene} (config : Config) (memory : Memory)
    (tokens : TokenTable E.TokenFn) (made : scene.Made) (pointer : Pointer)
    (kept : (Machine.ofParts config memory tokens scene).KeepsAreas machine) :
    Staged (Run.start pointer machine)
  | step {run next : Run E} (staged : Staged run) (step : run.Step next) : Staged next
  | restart {run : Run E} {ending : Machine.Ending E} {machine : Machine E} (pointer : Pointer)
    (staged : Staged run) (ended : run.Ends ending)
    (kept : (Machine.finish ending).2.KeepsAreas machine) : Staged (Run.start pointer machine)

theorem Staged.tidy (patches : Machine.PatchesLeaveAreas E) (staged : run.Staged) :
    run.machine.Tidy := by
  induction staged with
  | start config memory tokens made pointer kept =>
    have tidy := (Machine.tidy_ofParts config memory tokens made).of_keepsAreas kept
    exact tidy.of_sameExcept (start_sameExcept pointer _) (by simp)
  | @step run _ _ step ih => exact step.keeps (ih.step patches run.canonical run.cursor)
  | @restart run ending machine pointer _ ended kept ih =>
    have tidy := ended.keeps ih (ih.step patches run.canonical run.cursor)
    have finished := tidy.of_sameExcept (Machine.finish_sameExcept ending) (by simp)
    exact (finished.of_keepsAreas kept).of_sameExcept (start_sameExcept pointer machine) (by simp)

/-- In every state of a machine whose areas are left to the scripts, and when it comes back from a run,
areas stand in the slots of their indices, the level names no slot that is empty, and the handles of
areas, objects and the player find the nodes that were made for them. -/
theorem references_resolve (patches : Machine.PatchesLeaveAreas E) (staged : run.Staged) :
    run.machine.Coherent ∧ ∀ ending, run.Ends ending → (Machine.finish ending).2.Coherent := by
  have tidy := staged.tidy patches
  refine ⟨tidy.coherent, fun ending ended => ?_⟩
  have left := ended.keeps tidy (tidy.step patches run.canonical run.cursor)
  exact (left.of_sameExcept (Machine.finish_sameExcept ending) (by simp)).coherent

theorem Staged.of_steps (staged : run.Staged) (steps : Relation.ReflTransGen Step run next) :
    next.Staged := by
  induction steps with
  | refl => exact staged
  | tail _ step ih => exact ih.step step

theorem patchesLeaveAreas_scripted : Machine.PatchesLeaveAreas Scripted.embedding := by
  intro patch command machine
  cases (patch : Scripted.Instrument) <;>
    exact .keeps ⟨⟨rfl, rfl, rfl⟩, rfl, fun hosts => hosts.of_hosts rfl⟩

/-- Makes a level with one area, which has a camera and one spawn, makes the player, and loads the
area two times. -/
def furnishedScript : Bytes := #[
  0x19, 4, 0, 0,
  0x1D, 8, 0, 0, 0, 0, 0, 14,
  0x22, 24, 0x1F, 5, 0, 0, 0, 0, 0, 0, 0, 0, 0, 0, 0, 0, 0, 0, 0, 0, 0, 0, 0, 0,
  0x1E, 4, 0, 0,
  0x23, 12, 0, 1, 0, 0, 0, 0, 0, 0, 0, 0,
  0x27, 4, 0, 0,
  0x27, 4, 0, 0,
  0x02, 4, 0, 0]

def furnished : Machine Scripted.embedding :=
  let scene := Scene.empty.defineGeometry ⟨0x0E000000⟩ true
  .ofParts .standard (ofScript #[] furnishedScript).machine.memory .empty scene

/-- A root, a camera, a player and two objects: what they refer to is there. -/
theorem references_resolve_furnished : ∃ run, (start ⟨0, 0⟩ furnished).reached? 7 = some run ∧
    run.Staged ∧ run.machine.scene.nodes.size = 5 ∧ run.machine.scene.objects.size = 2 ∧
    run.machine.scene.player.isSome ∧ (run.machine.level.area? 0).isSome ∧
    run.machine.Coherent := by
  let run := ((start ⟨0, 0⟩ furnished).reached? 7).get (by decide +kernel)
  have reached : (start ⟨0, 0⟩ furnished).reached? 7 = some run := (Option.some_get _).symm
  have made : (Scene.empty.defineGeometry ⟨0x0E000000⟩ true).Made := .defineGeometry _ _ .empty
  have begun : (start ⟨0, 0⟩ furnished).Staged :=
    .start .standard _ .empty made ⟨0, 0⟩ ⟨⟨rfl, rfl, rfl⟩, rfl, id⟩
  have staged : run.Staged := begun.of_steps (reached?_eq_some.mp reached).steps
  have coherent := (references_resolve patchesLeaveAreas_scripted staged).1
  exact ⟨run, reached, staged, by decide +kernel, by decide +kernel, by decide +kernel,
    by decide +kernel, coherent⟩

end Run

end StageScript
