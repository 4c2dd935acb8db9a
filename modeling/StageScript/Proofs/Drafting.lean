import Mathlib.Algebra.GroupWithZero.Nat
import StageScript.Proofs.Reading

/-!
Scripts written by calls. Where each label is bound and which labels are used can be told from the
calls alone, and a draft knows no more. Writing the addresses of the labels into the operands that
wait for them gives the bytes that the same calls write with addresses in place of labels.
-/

namespace StageScript.Assembly

inductive Call where
  | newLabel
  | bind (label : Label)
  | emit (statement : Statement)
  deriving DecidableEq, Repr

/-- Does one call. A refused bind leaves the draft as it is. -/
def Draft.perform (draft : Draft) : Call → Except AssemblyError Draft
  | .newLabel => .ok draft.newLabel.2
  | .bind label => .ok ((draft.bind label).toOption.getD draft)
  | .emit statement => draft.emit statement

def Draft.performAll (draft : Draft) (calls : List Call) : Except AssemblyError Draft :=
  calls.foldlM perform draft

def Call.statement? : Call → Option Statement
  | .emit statement => some statement
  | _ => none

def Call.resolve (addressOf : Label → Address) : Call → Call
  | .emit statement => .emit (statement.resolve addressOf)
  | call => call

def Call.Binds (label : Label) (labels : Nat) (call : Call) : Prop :=
  call = .bind label ∧ label.index < labels

instance (label : Label) (labels : Nat) (call : Call) : Decidable (call.Binds label labels) :=
  inferInstanceAs (Decidable (_ ∧ _))

def Statement.labels (statement : Statement) : List Label :=
  statement.fields.filterMap Field.label?

def Statement.length (layout : Layout) (statement : Statement) : Nat :=
  layout.commandBytes statement.opcode.size

def Statement.encode (layout : Layout) (statement : Statement) : Bytes :=
  encoded layout statement.opcode.code statement.opcode.size statement.fields

def script (layout : Layout) (statements : List Statement) : Bytes :=
  (statements.flatMap fun statement => (statement.encode layout).toList).toArray

def lengthOf (layout : Layout) (statements : List Statement) : Nat :=
  (statements.map (Statement.length layout)).sum

def statements (calls : List Call) : List Statement := calls.filterMap Call.statement?

/-- The labels that serve as targets, in the order of the statements. -/
def targets (calls : List Call) : List Label := (statements calls).flatMap Statement.labels

def created (calls : List Call) : Nat := calls.count .newLabel

def offsetAfter (layout : Layout) (calls : List Call) : Nat := lengthOf layout (statements calls)

/-- Where calls bind a label, behind others that have created so many labels and written so many
bytes: at the first bind that finds the label created. -/
def boundFrom (layout : Layout) (label : Label) : (labels offset : Nat) → List Call → Option Nat
  | _, _, [] => none
  | labels, offset, call :: rest =>
    if call.Binds label labels then some offset
    else boundFrom layout label (labels + created [call]) (offset + offsetAfter layout [call]) rest

def boundAt (layout : Layout) (calls : List Call) (label : Label) : Option Nat :=
  boundFrom layout label 0 0 calls

/-- What is wrong with a label as a target, for a script at a base in a segment. -/
def offence? (layout : Layout) (segment : UInt8) (base : UInt32) (calls : List Call)
    (label : Label) : Option AssemblyError :=
  match boundAt layout calls label with
  | none => some (.danglingLabel label)
  | some offset =>
    if limit32 ≤ base.toNat + offset then some (.offsetOverflow (base.toNat + offset))
    else if 0x00FFFFFF < base.toNat + offset then some .tooLarge
    else if segmentCount ≤ segment.toNat then some (.format (.segmentOutOfRange segment))
    else none

def addressAt (layout : Layout) (segment : UInt8) (base : UInt32) (calls : List Call)
    (label : Label) : Address :=
  let absolute := base.toNat + (boundAt layout calls label).getD 0
  (Address.ofParts segment (UInt32.ofNat absolute)).toOption.getD .null

/-- Writes the address of its label into an operand that waits for it. -/
def Reference.patch (layout : Layout) (addressOf : Label → Address) (bytes : Bytes)
    (reference : Reference) : Bytes :=
  overwrite bytes reference.place
    (pointerBytes layout reference.order (addressOf reference.label).raw.toNat)

section Spec

variable {layout : Layout} {calls more : List Call} {label : Label}

@[simp] theorem statements_append :
    statements (calls ++ more) = statements calls ++ statements more :=
  List.filterMap_append

@[simp] theorem targets_append : targets (calls ++ more) = targets calls ++ targets more := by
  rw [targets, statements_append, List.flatMap_append]
  rfl

@[simp] theorem created_append : created (calls ++ more) = created calls + created more :=
  List.count_append

@[simp] theorem lengthOf_append {first second : List Statement} :
    lengthOf layout (first ++ second) = lengthOf layout first + lengthOf layout second := by
  rw [lengthOf, List.map_append, List.sum_append]
  rfl

@[simp] theorem lengthOf_singleton {statement : Statement} :
    lengthOf layout [statement] = statement.length layout := List.sum_singleton

@[simp] theorem offsetAfter_append :
    offsetAfter layout (calls ++ more) = offsetAfter layout calls + offsetAfter layout more := by
  rw [offsetAfter, statements_append, lengthOf_append]
  rfl

@[simp] theorem script_append {first second : List Statement} :
    script layout (first ++ second) = script layout first ++ script layout second := by
  rw [script, List.flatMap_append]
  exact (List.append_toArray _ _).symm

theorem script_singleton {statement : Statement} :
    script layout [statement] = statement.encode layout := by
  simp [script]

theorem statements_resolve {addressOf : Label → Address} :
    statements (calls.map (Call.resolve addressOf)) =
      (statements calls).map (Statement.resolve addressOf) := by
  rw [statements, List.filterMap_map, statements, List.map_filterMap]
  congr 1
  funext call
  cases call <;> rfl

theorem boundFrom_snoc {call : Call} {labels offset : Nat} :
    boundFrom layout label labels offset (calls ++ [call]) =
      (boundFrom layout label labels offset calls).or
        (if call.Binds label (labels + created calls) then some (offset + offsetAfter layout calls)
        else none) := by
  induction calls generalizing labels offset with
  | nil => simp [boundFrom, created, offsetAfter, lengthOf, statements]
  | cons first rest ih =>
    have count : created (first :: rest) = created [first] + created rest :=
      @created_append [first] rest
    have length : offsetAfter layout (first :: rest) =
      offsetAfter layout [first] + offsetAfter layout rest :=
      @offsetAfter_append layout [first] rest
    rw [List.cons_append, boundFrom, boundFrom]
    split
    next => rfl
    next => rw [ih, count, length, Nat.add_assoc, Nat.add_assoc]

theorem boundAt_snoc {call : Call} : boundAt layout (calls ++ [call]) label =
    (boundAt layout calls label).or
      (if call.Binds label (created calls) then some (offsetAfter layout calls) else none) := by
  rw [boundAt, boundFrom_snoc, Nat.zero_add, Nat.zero_add]
  rfl

end Spec

section Patch

variable {layout : Layout} {addressOf : Label → Address} {code size : UInt8} {fields : List Field}
  {field : Field} {order : ByteOrder}

@[simp] theorem Field.offset_resolve : (field.resolve addressOf).offset = field.offset := rfl

theorem Value.width_resolve {value : Value} {pointers : PointerWidth} :
    (value.resolve addressOf).width pointers = value.width pointers := by
  cases value <;> rfl

@[simp] theorem Field.stop_resolve : (field.resolve addressOf).stop = field.stop :=
  congrArg (field.offset + ·) Value.width_resolve

@[simp] theorem Field.label?_resolve : (field.resolve addressOf).label? = none := by
  obtain ⟨offset, value⟩ := field
  cases value <;> rfl

theorem Field.resolve_of_plain (plain : field.label? = none) : field.resolve addressOf = field := by
  obtain ⟨offset, value⟩ := field
  rcases value with _ | _ | _ | _ | _ | _ | (_ | _) <;> first | rfl | cases plain

theorem Field.write_resolve_of_label {label : Label} {bytes : Bytes}
    (named : field.label? = some label) :
    (field.resolve addressOf).write layout order bytes =
      Reference.patch layout addressOf bytes ⟨layout.place field.offset, order, label⟩ := by
  have value : (field.resolve addressOf).value = .target (.address (addressOf label)) := by
    rw [Field.resolve, Field.value_of_label named]
    rfl
  rw [Field.write, Field.content, value]
  rfl

namespace WellPlaced

theorem tail (placed : WellPlaced size (field :: fields)) : WellPlaced size fields where
  inside other found := placed.inside other (List.mem_cons_of_mem _ found)
  apart := (List.pairwise_cons.mp placed.apart).2

theorem resolve_head (placed : WellPlaced size (field :: fields)) :
    WellPlaced size (field.resolve addressOf :: fields) where
  inside := by
    simpa only [List.forall_mem_cons, Field.offset_resolve, Field.stop_resolve] using placed.inside
  apart := by
    simpa only [List.pairwise_cons, Field.Apart, Field.offset_resolve, Field.stop_resolve]
      using placed.apart

theorem foldl_write_cons (placed : WellPlaced size (field :: fields)) {bytes : Bytes} :
    fields.foldl (Field.write layout order) (field.write layout order bytes) =
      field.write layout order (fields.foldl (Field.write layout order) bytes) := by
  have last : (field :: fields).Perm (fields ++ [field]) :=
    (List.perm_append_singleton field _).symm
  have same := last.foldl_eq' (f := Field.write layout order)
    (fun _ found _ also => placed.write_comm found also _) bytes
  rwa [List.foldl_cons, List.foldl_append] at same

/-- Fields with addresses in place of labels are written as the fields are, and the addresses then
written into the operands that wait for them. -/
theorem foldl_write_resolve (placed : WellPlaced size fields) {bytes : Bytes} :
    (fields.map (Field.resolve addressOf)).foldl (Field.write layout order) bytes =
      (fields.filterMap (Field.reference? 0 layout order)).foldl (Reference.patch layout addressOf)
        (fields.foldl (Field.write layout order) bytes) := by
  induction fields generalizing bytes with
  | nil => rfl
  | cons field rest ih =>
    rw [List.map_cons, List.foldl_cons, ih placed.tail, List.filterMap_cons, Field.reference?]
    cases named : field.label? with
    | none =>
      rw [Field.resolve_of_plain named]
      rfl
    | some label =>
      have written : field.write layout order bytes = bytes := by
        rw [Field.write, Field.content_of_label named, overwrite]
      rw [placed.resolve_head.foldl_write_cons, Field.write_resolve_of_label named,
        List.foldl_cons, written]
      simp

end WellPlaced

variable {front rear : Bytes} {references : List Reference}

theorem foldl_patch_append_left
    (inside : ∀ reference ∈ references,
      reference.place + layout.pointerWidth.bytes ≤ front.size) :
    references.foldl (Reference.patch layout addressOf) (front ++ rear) =
      references.foldl (Reference.patch layout addressOf) front ++ rear := by
  induction references generalizing front with
  | nil => rfl
  | cons reference rest ih =>
    obtain ⟨here, others⟩ := List.forall_mem_cons.mp inside
    have fits : reference.place + (pointerBytes layout reference.order
        (addressOf reference.label).raw.toNat).length ≤ front.size := by
      rwa [pointerBytes, ByteOrder.length_encode]
    rw [List.foldl_cons, List.foldl_cons, Reference.patch, overwrite_append_left fits, ih]
    · rfl
    · simpa only [size_overwrite] using others

theorem foldl_patch_append_right :
    (fields.filterMap (Field.reference? front.size layout order)).foldl
        (Reference.patch layout addressOf) (front ++ rear) =
      front ++ (fields.filterMap (Field.reference? 0 layout order)).foldl
        (Reference.patch layout addressOf) rear := by
  induction fields generalizing rear with
  | nil => rfl
  | cons field rest ih =>
    rw [List.filterMap_cons, List.filterMap_cons, Field.reference?, Field.reference?]
    cases field.label? with
    | none => exact ih
    | some label =>
      simp only [Option.map_some, List.foldl_cons, Reference.patch, Nat.zero_add,
        overwrite_append_right]
      exact ih

theorem size_foldl_patch :
    (references.foldl (Reference.patch layout addressOf) front).size = front.size := by
  induction references generalizing front with
  | nil => rfl
  | cons reference rest ih => rw [List.foldl_cons, ih, Reference.patch, size_overwrite]

end Patch

theorem Statement.labels_resolve {addressOf : Label → Address} (statement : Statement) :
    (statement.resolve addressOf).labels = [] := by
  refine List.filterMap_eq_nil_iff.mpr fun field found => ?_
  rw [Statement.fields_resolve] at found
  obtain ⟨_, _, rfl⟩ := List.mem_map.mp found
  exact Field.label?_resolve

theorem targets_resolve {addressOf : Label → Address} (calls : List Call) :
    targets (calls.map (Call.resolve addressOf)) = [] := by
  rw [targets, statements_resolve]
  refine List.flatMap_eq_nil_iff.mpr fun statement found => ?_
  obtain ⟨given, _, rfl⟩ := List.mem_map.mp found
  exact given.labels_resolve

theorem Statement.encode_resolve {layout : Layout} {addressOf : Label → Address}
    (statement : Statement) :
    (statement.resolve addressOf).encode layout =
      (statement.fields.filterMap (Field.reference? 0 layout
        (layout.orderOf statement.opcode.code))).foldl (Reference.patch layout addressOf)
          (statement.encode layout) := by
  rw [Statement.encode, Statement.opcode_resolve, Statement.fields_resolve]
  exact statement.wellPlaced.foldl_write_resolve

theorem Statement.size_encode {layout : Layout} (statement : Statement) :
    (statement.encode layout).size = statement.length layout := by
  rw [Statement.encode, size_encoded, commandBytes_of_le statement.opcode.two_le_size]
  rfl

section Script

variable {layout : Layout} {addressOf : Label → Address} {statement : Statement}

theorem Statement.length_resolve : (statement.resolve addressOf).length layout =
    statement.length layout := by
  rw [Statement.length, Statement.opcode_resolve, Statement.length]

theorem lengthOf_resolve {written : List Statement} :
    lengthOf layout (written.map (Statement.resolve addressOf)) = lengthOf layout written := by
  rw [lengthOf, List.map_map, lengthOf]
  congr 2
  funext statement
  exact Statement.length_resolve

theorem size_script {written : List Statement} :
    (script layout written).size = lengthOf layout written := by
  induction written with
  | nil => rfl
  | cons statement rest ih =>
    rw [← List.singleton_append, script_append, Array.size_append, ih, script_singleton,
      statement.size_encode, lengthOf_append, lengthOf_singleton]

theorem getElem?_script_end (written : List Statement) :
    (script layout (written.map (Statement.resolve addressOf)))[lengthOf layout written]? = none :=
  Array.getElem?_eq_none (Nat.le_of_eq (size_script.trans lengthOf_resolve))

def Statement.command (layout : Layout) (addressOf : Label → Address) (pointer : Pointer)
    (statement : Statement) : Command :=
  decoded layout pointer statement.opcode.code statement.opcode.size
    (statement.resolve addressOf).fields

theorem Statement.wellPlaced_resolve (statement : Statement) (addressOf : Label → Address) :
    WellPlaced statement.opcode.size (statement.resolve addressOf).fields := by
  have placed := (statement.resolve addressOf).wellPlaced
  rwa [Statement.opcode_resolve] at placed

theorem Statement.carries_command {pointer : Pointer} :
    Carries layout (statement.command layout addressOf pointer) statement.opcode.code
      statement.opcode.size (statement.resolve addressOf).fields :=
  carries_decoded statement.opcode.two_le_size (statement.wellPlaced_resolve addressOf) pointer

theorem Statement.read_command {pointer : Pointer} :
    Instruction.read statement.opcode (statement.command layout addressOf pointer) =
      .ok (statement.instruction addressOf) :=
  read_of_readsBack statement statement.carries_command.reads

theorem Statement.opcode?_command {pointer : Pointer} :
    (statement.command layout addressOf pointer).opcode? = some statement.opcode :=
  Opcode.ofCode?_code statement.opcode

theorem Statement.length_command {pointer : Pointer} :
    (statement.command layout addressOf pointer).length = statement.length layout :=
  statement.carries_command.length

theorem Statement.next_command {pointer : Pointer} :
    (statement.command layout addressOf pointer).next = pointer.advance (statement.length layout) :=
  congrArg pointer.advance statement.length_command

/-- The command of a statement is found behind the statements before it. -/
theorem decode_script (before after : List Statement) (statement : Statement) (buffer : BufferId) :
    Command.decode layout
        (script layout ((before ++ statement :: after).map (Statement.resolve addressOf)))
        ⟨buffer, lengthOf layout before⟩ =
      .ok (statement.command layout addressOf ⟨buffer, lengthOf layout before⟩) := by
  have found := decode_encoded layout statement.opcode.code statement.opcode.two_le_size
    (statement.wellPlaced_resolve addressOf)
    (script layout (before.map (Statement.resolve addressOf)))
    (script layout (after.map (Statement.resolve addressOf))) buffer
  have encode : (statement.resolve addressOf).encode layout =
      encoded layout statement.opcode.code statement.opcode.size
        (statement.resolve addressOf).fields := by
    rw [Statement.encode, Statement.opcode_resolve]
  rw [List.map_append, List.map_cons, List.append_cons, script_append, script_append,
    script_singleton, encode]
  rwa [size_script, lengthOf_resolve] at found

end Script

namespace Draft

variable {layout : Layout} {segment : UInt8} {base : UInt32} {calls : List Call}
  {draft next : Draft}

/-- What a draft knows once the calls are done. -/
structure After (layout : Layout) (segment : UInt8) (base : UInt32) (calls : List Call)
    (draft : Draft) : Prop where
  laidOut : draft.layout = layout
  segment : draft.segment = segment
  base : draft.base = base
  here : draft.here = offsetAfter layout calls
  created : draft.labels.size = created calls
  bound : ∀ label, draft.labels[label.index]?.join = boundAt layout calls label
  targets : draft.references.toList.map Reference.label = targets calls
  inside : ∀ reference ∈ draft.references.toList,
    reference.place + layout.pointerWidth.bytes ≤ draft.bytes.size
  patched : ∀ addressOf, draft.references.toList.foldl (Reference.patch layout addressOf)
    draft.bytes = script layout ((statements calls).map (Statement.resolve addressOf))

theorem After.fresh : (Draft.fresh layout segment base).After layout segment base [] where
  laidOut := rfl
  segment := rfl
  base := rfl
  here := rfl
  created := rfl
  bound _ := rfl
  targets := rfl
  inside := by simp [Draft.fresh]
  patched _ := rfl

theorem After.relabel (after : draft.After layout segment base calls) {call : Call}
    {labels : Array (Option Nat)} (silent : call.statement? = none)
    (counted : labels.size = Assembly.created (calls ++ [call]))
    (bound : ∀ label, labels[label.index]?.join = boundAt layout (calls ++ [call]) label) :
    { draft with labels }.After layout segment base (calls ++ [call]) := by
  have same : statements (calls ++ [call]) = statements calls := by
    rw [statements_append, statements, statements]
    simp [silent]
  exact {
    laidOut := after.laidOut
    segment := after.segment
    base := after.base
    here := by rw [offsetAfter, same]; exact after.here
    created := counted
    bound := bound
    targets := by rw [Assembly.targets, same]; exact after.targets
    inside := after.inside
    patched := by rw [same]; exact after.patched }

theorem After.newLabel (after : draft.After layout segment base calls) :
    draft.newLabel.2.After layout segment base (calls ++ [.newLabel]) := by
  refine after.relabel rfl ?_ fun label => ?_
  · rw [Array.size_push, after.created, created_append]
    rfl
  · rw [boundAt_snoc, if_neg (by simp [Call.Binds]), Option.or_none, ← after.bound,
      Array.getElem?_push]
    split
    next last => rw [last, Array.getElem?_eq_none (Nat.le_refl _)]; rfl
    next => rfl

theorem binds_bind {label other : Label} {labels : Nat} :
    (Call.bind label).Binds other labels ↔ label = other ∧ label.index < labels := by
  rw [Call.Binds, Call.bind.injEq]
  constructor <;> (rintro ⟨rfl, below⟩; exact ⟨rfl, below⟩)

theorem After.bind (after : draft.After layout segment base calls) (label : Label) :
    ((draft.bind label).toOption.getD draft).After layout segment base
      (calls ++ [.bind label]) := by
  have counted : draft.labels.size = Assembly.created (calls ++ [.bind label]) := by
    rw [created_append]
    exact after.created
  have known := after.bound label
  cases found : draft.labels[label.index]? with
  | none =>
    have outside : ¬label.index < Assembly.created calls := by
      rw [← after.created, Nat.not_lt]
      exact Array.getElem?_eq_none_iff.mp found
    simp only [Draft.bind, found]
    refine after.relabel rfl counted fun other => ?_
    rw [boundAt_snoc, if_neg (fun binds => outside (binds_bind.mp binds).2), Option.or_none,
      after.bound]
  | some slot =>
    cases slot with
    | some offset =>
      rw [found, Option.join_some] at known
      simp only [Draft.bind, found]
      refine after.relabel rfl counted fun other => ?_
      rw [boundAt_snoc, after.bound]
      by_cases same : label = other
      · rw [← same, ← known]
        rfl
      · rw [if_neg (fun binds => same (binds_bind.mp binds).1), Option.or_none]
    | none =>
      have inside : label.index < draft.labels.size := (Array.getElem?_eq_some_iff.mp found).1
      rw [found, Option.join_some] at known
      simp only [Draft.bind, found]
      refine after.relabel rfl (by rwa [Array.size_setIfInBounds]) fun other => ?_
      rw [boundAt_snoc, Array.getElem?_setIfInBounds]
      by_cases same : label = other
      · rw [← same, if_pos rfl, if_pos inside, ← known,
          if_pos (binds_bind.mpr ⟨rfl, after.created ▸ inside⟩), after.here]
        rfl
      · have apart : label.index ≠ other.index := fun index => same (congrArg Label.mk index)
        rw [if_neg apart, if_neg (fun binds => same (binds_bind.mp binds).1), Option.or_none,
          after.bound]

theorem After.emit (after : draft.After layout segment base calls) (statement : Statement)
    (emitted : draft.emit statement = .ok next) :
    next.After layout segment base (calls ++ [.emit statement]) := by
  obtain ⟨-, rfl⟩ := (emitSized_eq_ok statement.opcode.two_le_size statement.wellPlaced).mp emitted
  obtain rfl := after.laidOut
  have added : statements (calls ++ [.emit statement]) = statements calls ++ [statement] :=
    statements_append
  have size : (draft.bytes ++ statement.encode draft.layout).size =
      draft.bytes.size + statement.length draft.layout := by
    rw [Array.size_append, statement.size_encode]
  refine ⟨rfl, after.segment, after.base, ?_, ?_, fun label => ?_, ?_, ?_, fun addressOf => ?_⟩
  · have here : draft.bytes.size = offsetAfter draft.layout calls := after.here
    rw [offsetAfter_append, ← here]
    exact size
  · rw [created_append]
    exact after.created
  · rw [boundAt_snoc, if_neg (by simp [Call.Binds]), Option.or_none, ← after.bound]
  · have named (field : Field) : (field.reference? draft.here draft.layout
        (draft.layout.orderOf statement.opcode.code)).map Reference.label = field.label? := by
      rw [Field.reference?, Option.map_map]
      exact Option.map_id'
    rw [targets_append, ← after.targets, Array.toList_append, List.map_append, List.map_filterMap]
    simp only [named]
    simp [Assembly.targets, statements, Call.statement?, Statement.labels]
  · intro reference found
    change _ ≤ (draft.bytes ++ statement.encode draft.layout).size
    rw [size]
    rcases List.mem_append.mp (Array.toList_append ▸ found) with old | new
    · exact Nat.le_add_right_of_le (after.inside reference old)
    · obtain ⟨field, listed, referred⟩ := List.mem_filterMap.mp new
      obtain ⟨label, named, rfl⟩ := Option.map_eq_some_iff.mp referred
      have ends := statement.wellPlaced.end_le draft.layout listed
      rw [Field.value_of_label named] at ends
      rw [Nat.add_assoc]
      exact Nat.add_le_add_left ends _
  · have front : (draft.references.toList.foldl (Reference.patch draft.layout addressOf)
        draft.bytes).size = draft.here := size_foldl_patch
    rw [added, List.map_append, script_append, List.map_singleton, script_singleton,
      statement.encode_resolve, ← after.patched, Array.toList_append, List.foldl_append]
    change List.foldl _ (List.foldl _ (draft.bytes ++ statement.encode draft.layout) _) _ = _
    rw [foldl_patch_append_left after.inside, ← front, foldl_patch_append_right]

theorem After.perform (after : draft.After layout segment base calls) {call : Call}
    (performed : draft.perform call = .ok next) :
    next.After layout segment base (calls ++ [call]) := by
  cases call with
  | newLabel =>
    cases performed
    exact after.newLabel
  | bind label =>
    cases performed
    exact after.bind label
  | emit statement => exact after.emit statement performed

/-- The calls of a script leave a draft that knows what can be told from them. -/
theorem after_of_performAll
    (performed : (Draft.fresh layout segment base).performAll calls = .ok draft) :
    draft.After layout segment base calls := by
  have further {before : Draft} {done : List Call} (after : before.After layout segment base done) :
      ∀ {rest}, before.performAll rest = .ok draft →
        draft.After layout segment base (done ++ rest) := by
    intro rest
    induction rest generalizing before done with
    | nil =>
      intro performed
      cases performed
      rwa [List.append_nil]
    | cons call rest ih =>
      intro performed
      rw [performAll, List.foldlM_cons, bind_eq_ok] at performed
      obtain ⟨between, first, others⟩ := performed
      have ended := ih (after.perform first) others
      rwa [List.append_assoc] at ended
  exact further .fresh performed

theorem After.addressOf (after : draft.After layout segment base calls) {label : Label}
    {offset : Nat} (found : boundAt layout calls label = some offset) :
    draft.addressOf offset =
      match offence? layout segment base calls label with
      | some error => .error error
      | none => .ok (addressAt layout segment base calls label) := by
  simp only [Draft.addressOf, offence?, addressAt, found, after.base, after.segment,
    Option.getD_some]
  split_ifs with wide large outside
  · rfl
  · rfl
  · rw [Address.ofParts, if_neg (Nat.not_lt.mpr outside)]
  · rw [Address.ofParts, if_pos (Nat.not_le.mp outside)]
    rfl

theorem After.resolveReference (after : draft.After layout segment base calls) {bytes : Bytes}
    {reference : Reference}
    (inside : reference.place + layout.pointerWidth.bytes ≤ bytes.size) :
    draft.resolveReference bytes reference =
      match offence? layout segment base calls reference.label with
      | some error => .error error
      | none => .ok (reference.patch layout (addressAt layout segment base calls) bytes) := by
  rw [Draft.resolveReference, after.bound]
  cases found : boundAt layout calls reference.label with
  | none =>
    rw [offence?, found]
  | some offset =>
    simp only [after.addressOf found]
    cases offence? layout segment base calls reference.label with
    | some error => rfl
    | none =>
      rw [ok_bind, overwrite?, if_pos]
      · rw [after.laidOut]
        rfl
      · rwa [pointerBytes, ByteOrder.length_encode, after.laidOut]

/-- Finishing stops at the first target that is not in order; without one, the script is what the
calls write with addresses in place of labels. -/
theorem After.finish_eq (after : draft.After layout segment base calls) :
    draft.finish =
      match (Assembly.targets calls).findSome? (offence? layout segment base calls) with
      | some error => .error error
      | none => .ok (script layout ((statements calls).map
          (Statement.resolve (addressAt layout segment base calls)))) := by
  have folded {bytes : Bytes} : ∀ {references : List Reference},
      (∀ reference ∈ references, reference.place + layout.pointerWidth.bytes ≤ bytes.size) →
      references.foldlM draft.resolveReference bytes =
        match (references.map Reference.label).findSome? (offence? layout segment base calls) with
        | some error => .error error
        | none => .ok (references.foldl
            (Reference.patch layout (addressAt layout segment base calls)) bytes) := by
    intro references inside
    induction references generalizing bytes with
    | nil => rfl
    | cons reference rest ih =>
      obtain ⟨here, others⟩ := List.forall_mem_cons.mp inside
      rw [List.foldlM_cons, after.resolveReference here, List.map_cons, List.findSome?_cons]
      cases offence? layout segment base calls reference.label with
      | some error => rfl
      | none =>
        rw [ok_bind, ih]
        · rfl
        · simpa only [Reference.patch, size_overwrite] using others
  rw [Draft.finish, ← Array.foldlM_toList, folded after.inside, after.targets, after.patched]

theorem exists_perform (draft : Draft) (call : Call)
    (reached : ∀ statement, call = .emit statement →
      draft.here + statement.length draft.layout ≤ limit64 ∨ statement.labels = []) :
    ∃ next, draft.perform call = .ok next := by
  cases call with
  | newLabel => exact ⟨_, rfl⟩
  | bind label => exact ⟨_, rfl⟩
  | emit statement =>
    refine ⟨_, (emitSized_eq_ok statement.opcode.two_le_size statement.wellPlaced).mpr
      ⟨fun field found named => ?_, rfl⟩⟩
    rcases reached statement rfl with room | plain
    · obtain ⟨label, known⟩ := Option.ne_none_iff_exists'.mp named
      have ends := statement.wellPlaced.end_le draft.layout found
      have wide : 0 < field.value.width draft.layout.pointerWidth := by
        rw [Field.value_of_label known, Value.width]
        cases draft.layout.pointerWidth <;> decide
      unfold Statement.length at room
      omega
    · exact absurd (List.filterMap_eq_nil_iff.mp plain field found) named

theorem exists_performAll (layout : Layout) (segment : UInt8) (base : UInt32) (calls : List Call)
    (small : offsetAfter layout calls ≤ limit64) :
    ∃ draft, (Draft.fresh layout segment base).performAll calls = .ok draft := by
  have further {before : Draft} {done : List Call} (after : before.After layout segment base done) :
      ∀ {rest}, offsetAfter layout (done ++ rest) ≤ limit64 →
        ∃ draft, before.performAll rest = .ok draft := by
    intro rest
    induction rest generalizing before done with
    | nil => exact fun _ => ⟨before, rfl⟩
    | cons call rest ih =>
      intro small
      rw [List.append_cons] at small
      have room := small
      rw [offsetAfter_append, offsetAfter_append, ← after.here] at room
      obtain ⟨next, performed⟩ := before.exists_perform call fun statement same => by
        left
        subst same
        have length : offsetAfter layout [.emit statement] = statement.length layout :=
          Nat.add_zero _
        rw [after.laidOut]
        omega
      obtain ⟨draft, others⟩ := ih (after.perform performed) small
      exact ⟨draft, bind_eq_ok.mpr ⟨next, performed, others⟩⟩
  exact further .fresh small

theorem exists_performAll_resolve (calls : List Call) (addressOf : Label → Address)
    (draft : Draft) :
    ∃ resolved, draft.performAll (calls.map (Call.resolve addressOf)) = .ok resolved := by
  induction calls generalizing draft with
  | nil => exact ⟨draft, rfl⟩
  | cons call rest ih =>
    obtain ⟨next, performed⟩ := draft.exists_perform (call.resolve addressOf)
      fun statement same => by
        right
        cases call with
        | newLabel => cases same
        | bind label => cases same
        | emit given =>
          cases same
          exact given.labels_resolve
    obtain ⟨resolved, others⟩ := ih next
    exact ⟨resolved, bind_eq_ok.mpr ⟨next, performed, others⟩⟩

/-- Calls with addresses in place of labels leave nothing to be written later. -/
theorem bytes_of_performAll_resolve {addressOf : Label → Address} {resolved : Draft}
    (performed : (Draft.fresh layout segment base).performAll
      (calls.map (Call.resolve addressOf)) = .ok resolved) :
    resolved.bytes = script layout ((statements calls).map (Statement.resolve addressOf)) := by
  have after := after_of_performAll performed
  have bare := after.targets
  rw [targets_resolve, List.map_eq_nil_iff] at bare
  have written := after.patched addressOf
  rw [bare, List.foldl_nil, statements_resolve, List.map_map] at written
  rw [written]
  congr 2
  funext statement
  exact statement.resolve_resolve

end Draft

end StageScript.Assembly
