import Mathlib.Data.List.Perm.Basic
import Mathlib.Data.List.Pairwise
import StageScript.Assembly.Draft
import StageScript.Command
import StageScript.Proofs.Results

/-!
Fields written and read back. Fields that lie apart in the narrow layout lie apart in every layout,
so a command holds each of them whatever the order they were written in, and is blank elsewhere.
-/

namespace StageScript

namespace Layout

variable {layout : Layout} {offset other : Nat}

theorem place_mono (before : offset ≤ other) (small : 2 * other < limit64) :
    layout.place offset ≤ layout.place other := by
  rw [place_of_lt layout offset (by omega), place_of_lt layout other small]
  cases layout.pointerWidth <;> simp only [PointerWidth.scale] <;> omega

theorem le_place (small : 2 * offset < limit64) : offset ≤ layout.place offset := by
  rw [place_of_lt layout offset small]
  cases layout.pointerWidth <;> simp only [PointerWidth.scale] <;> omega

theorem commandBytes_lt (size : UInt8) : layout.commandBytes size < limit64 := by
  have bound := size.toNat_lt
  unfold commandBytes limit64
  cases layout.pointerWidth <;> simp only [PointerWidth.scale] <;> omega

theorem place_le_commandBytes (size : UInt8) :
    layout.place size.toNat ≤ layout.commandBytes size := by
  have bound := size.toNat_lt
  rw [place_of_lt layout _ (by unfold limit64; omega), commandBytes]
  cases layout.pointerWidth <;> simp only [PointerWidth.scale] <;> omega

end Layout

theorem Command.operand_eq_ok {command : Command} {offset width : Nat}
    (reached : command.layout.place offset + width < limit64)
    (fits : command.layout.place offset + width ≤ command.length) :
    command.operand offset width =
      .ok (command.order.decode (command.body.extract (command.layout.place offset)
        (command.layout.place offset + width)).toList) := by
  rw [operand, if_neg (by omega), if_neg (by omega)]

namespace Assembly

section Overwrite

variable {bytes front rear : Bytes} {place other : Nat} {content more : List UInt8}

@[simp] theorem size_overwrite : (overwrite bytes place content).size = bytes.size := by
  induction content generalizing bytes place with
  | nil => rfl
  | cons byte rest ih => rw [overwrite, ih, Array.size_setIfInBounds]

theorem getElem?_overwrite (index : Nat) :
    (overwrite bytes place content)[index]? =
      if place ≤ index ∧ index < place + content.length ∧ index < bytes.size then
        content[index - place]?
      else bytes[index]? := by
  induction content generalizing bytes place with
  | nil =>
    have nowhere : ¬(place ≤ index ∧ index < place + 0 ∧ index < bytes.size) := by omega
    rw [overwrite, List.length_nil, if_neg nowhere]
  | cons byte rest ih =>
    rw [overwrite, ih, Array.size_setIfInBounds, Array.getElem?_setIfInBounds, List.length_cons]
    rcases Nat.lt_trichotomy index place with before | rfl | after
    · rw [if_neg (by omega), if_neg (by omega), if_neg (by omega)]
    · rw [if_neg (by omega), if_pos rfl, Nat.sub_self, List.getElem?_cons_zero]
      by_cases room : index < bytes.size
      · rw [if_pos room, if_pos (by omega)]
      · rw [if_neg room, if_neg (by omega), Array.getElem?_eq_none (by omega)]
    · have step : index - place = index - (place + 1) + 1 := by omega
      rw [if_neg (by omega : ¬place = index), step, List.getElem?_cons_succ]
      by_cases inside : index < place + (rest.length + 1) ∧ index < bytes.size
      · rw [if_pos (by omega), if_pos (by omega)]
      · rw [if_neg (by omega), if_neg (by omega)]

theorem overwrite_append_left (fits : place + content.length ≤ front.size) :
    overwrite (front ++ rear) place content = overwrite front place content ++ rear := by
  induction content generalizing front place with
  | nil => rfl
  | cons byte rest ih =>
    rw [List.length_cons] at fits
    rw [overwrite, overwrite, Array.setIfInBounds_append_left (by omega),
      ih (by rw [Array.size_setIfInBounds]; omega)]

theorem overwrite_append_right :
    overwrite (front ++ rear) (front.size + place) content =
      front ++ overwrite rear place content := by
  induction content generalizing rear place with
  | nil => rfl
  | cons byte rest ih =>
    rw [overwrite, overwrite, Array.setIfInBounds_append_right (by omega), Nat.add_sub_cancel_left,
      Nat.add_assoc, ih]

theorem overwrite_comm
    (apart : place + content.length ≤ other ∨ other + more.length ≤ place) :
    overwrite (overwrite bytes place content) other more =
      overwrite (overwrite bytes other more) place content := by
  apply Array.ext_getElem?
  intro index
  simp only [getElem?_overwrite, size_overwrite]
  by_cases first : place ≤ index ∧ index < place + content.length ∧ index < bytes.size
  · rw [if_pos first, if_pos first, if_neg (by omega)]
  · rw [if_neg first, if_neg first]

theorem extract_overwrite (fits : place + content.length ≤ bytes.size) :
    ((overwrite bytes place content).extract place (place + content.length)).toList = content := by
  apply List.ext_getElem?
  intro index
  rw [Array.getElem?_toList, Array.getElem?_extract, size_overwrite, getElem?_overwrite]
  by_cases inside : index < content.length
  · rw [if_pos (by omega), if_pos (by omega), Nat.add_sub_cancel_left]
  · rw [if_neg (by omega), List.getElem?_eq_none (by omega)]

end Overwrite

def Value.width (pointers : PointerWidth) : Value → Nat
  | .u8 _ => 1
  | .u16 _ | .i16 _ => 2
  | .u32 _ | .i32 _ => 4
  | .pointer _ | .target _ => pointers.bytes

def Value.number : Value → Nat
  | .u8 value => value.toNat
  | .u16 value => value.toNat
  | .i16 value => value.toUInt16.toNat
  | .u32 value => value.toNat
  | .i32 value => value.toUInt32.toNat
  | .pointer value => value.toNat
  | .target (.address address) => address.raw.toNat
  | .target (.label _) => 0

namespace Field

variable {layout : Layout} {order : ByteOrder} {field other : Field} {bytes : Bytes}

def stop (field : Field) : Nat := field.offset + field.value.width .narrow

def Apart (field other : Field) : Prop := field.stop ≤ other.offset ∨ other.stop ≤ field.offset

instance : DecidableRel Apart := fun field other =>
  inferInstanceAs (Decidable (field.stop ≤ other.offset ∨ other.stop ≤ field.offset))

theorem Apart.symm (apart : field.Apart other) : other.Apart field := Or.symm apart

instance : Std.Symm Apart := ⟨fun _ _ => Apart.symm⟩

/-- A byte of a command in a layout that belongs to a field. -/
def Covers (layout : Layout) (field : Field) (index : Nat) : Prop :=
  layout.place field.offset ≤ index ∧
    index < layout.place field.offset + field.value.width layout.pointerWidth

def label? (field : Field) : Option Label :=
  match field.value with
  | .target (.label label) => some label
  | _ => none

def content (layout : Layout) (order : ByteOrder) (field : Field) : List UInt8 :=
  (field.value.bytes? layout order).getD []

def write (layout : Layout) (order : ByteOrder) (bytes : Bytes) (field : Field) : Bytes :=
  overwrite bytes (layout.place field.offset) (field.content layout order)

/-- What is left to do about a field of the command that starts at the given byte. -/
def reference? (start : Nat) (layout : Layout) (order : ByteOrder) (field : Field) :
    Option Reference :=
  field.label?.map fun label => ⟨start + layout.place field.offset, order, label⟩

/-- The reader that matches the field finds the value that was written. -/
def ReadsBack (command : Command) (field : Field) : Prop :=
  match field.value with
  | .u8 value => command.u8 field.offset = .ok value
  | .u16 value => command.u16 field.offset = .ok value
  | .i16 value => command.i16 field.offset = .ok value
  | .u32 value => command.u32 field.offset = .ok value
  | .i32 value => command.i32 field.offset = .ok value
  | .pointer value =>
    command.pointerValue field.offset = .ok
      (match command.layout.pointerWidth with
      | .narrow => value.toNat % limit32
      | .wide => value.toNat)
  | .target (.address address) => command.address field.offset = .ok address
  | .target (.label _) => True

@[simp] theorem size_write : (field.write layout order bytes).size = bytes.size := size_overwrite

theorem value_of_label {label : Label} (named : field.label? = some label) :
    field.value = .target (.label label) := by
  obtain ⟨offset, value⟩ := field
  rcases value with _ | _ | _ | _ | _ | _ | (_ | _) <;> simp_all [label?]

theorem content_eq (plain : field.label? = none) :
    field.content layout order = order.encode (field.value.width layout.pointerWidth)
      field.value.number := by
  obtain ⟨offset, value⟩ := field
  cases value with
  | u8 value => cases order <;> simp [content, Value.bytes?, Value.width, Value.number,
      ByteOrder.encode, ByteOrder.arrange, toLittleEndian]
  | target target =>
    cases target with
    | address address => rfl
    | label label => cases plain
  | _ => rfl

theorem length_content (layout : Layout) (order : ByteOrder) (plain : field.label? = none) :
    (field.content layout order).length = field.value.width layout.pointerWidth := by
  rw [content_eq plain, ByteOrder.length_encode]

theorem content_of_label {label : Label} (named : field.label? = some label) :
    field.content layout order = [] := by
  rw [content, value_of_label named]
  rfl

theorem length_content_le (layout : Layout) (order : ByteOrder) (field : Field) :
    (field.content layout order).length ≤ field.value.width layout.pointerWidth := by
  cases named : field.label? with
  | none => exact Nat.le_of_eq (length_content layout order named)
  | some label =>
    rw [content_of_label named]
    exact Nat.zero_le _

/-- A field ends no later than where a field behind it begins, in every layout. The width of a value
is at most a word, and a pointer takes up in a wide word what it gains. -/
theorem end_le_place_stop (layout : Layout) (field : Field) (small : 2 * field.stop < limit64) :
    layout.place field.offset + field.value.width layout.pointerWidth ≤
      layout.place field.stop := by
  rw [Layout.place_of_lt layout _ small,
    Layout.place_of_lt layout _ (by unfold stop at small; omega)]
  unfold stop
  cases layout.pointerWidth <;> cases field.value <;>
    simp only [Value.width, PointerWidth.scale, PointerWidth.bytes] <;> omega

theorem end_le_commandBytes (layout : Layout) (field : Field) {size : UInt8}
    (inside : field.stop ≤ size.toNat) :
    layout.place field.offset + field.value.width layout.pointerWidth ≤
      layout.commandBytes size := by
  have bound := size.toNat_lt
  calc layout.place field.offset + field.value.width layout.pointerWidth
    _ ≤ layout.place field.stop := field.end_le_place_stop layout (by unfold limit64; omega)
    _ ≤ layout.place size.toNat := Layout.place_mono inside (by unfold limit64; omega)
    _ ≤ layout.commandBytes size := Layout.place_le_commandBytes size

theorem ReadsBack.of_label {command : Command} {label : Label} (named : field.label? = some label) :
    field.ReadsBack command := by
  rw [ReadsBack, value_of_label named]
  trivial

theorem ReadsBack.of_operand {command : Command} (plain : field.label? = none)
    (read : command.operand field.offset (field.value.width command.layout.pointerWidth) =
      .ok (field.value.number % countOfBytes (field.value.width command.layout.pointerWidth))) :
    field.ReadsBack command := by
  obtain ⟨offset, value⟩ := field
  cases value with
  | u8 value =>
    have read : command.operand offset 1 = .ok (value.toNat % countOfBytes 1) := read
    simp [ReadsBack, Command.u8, read, countOfBytes]
  | u16 value =>
    have read : command.operand offset 2 = .ok (value.toNat % countOfBytes 2) := read
    simp [ReadsBack, Command.u16, read, countOfBytes]
  | i16 value =>
    have read : command.operand offset 2 = .ok (value.toUInt16.toNat % countOfBytes 2) := read
    simp [ReadsBack, Command.i16, Command.u16, read, countOfBytes]
  | u32 value =>
    have read : command.operand offset 4 = .ok (value.toNat % countOfBytes 4) := read
    simp [ReadsBack, Command.u32, read, countOfBytes]
  | i32 value =>
    have read : command.operand offset 4 = .ok (value.toUInt32.toNat % countOfBytes 4) := read
    simp [ReadsBack, Command.i32, Command.u32, read, countOfBytes]
  | pointer value =>
    have read : command.pointerValue offset =
      .ok (value.toNat % countOfBytes command.layout.pointerWidth.bytes) := read
    have bound := value.toNat_lt
    have whole : value.toNat % countOfBytes 8 = value.toNat := Nat.mod_eq_of_lt bound
    simp only [ReadsBack, read]
    cases command.layout.pointerWidth with
    | narrow => rfl
    | wide => exact congrArg Except.ok whole
  | target target =>
    cases target with
    | label label => cases plain
    | address address =>
      have read : command.pointerValue offset =
        .ok (address.raw.toNat % countOfBytes command.layout.pointerWidth.bytes) := read
      have bound : address.raw.toNat < limit32 := address.raw.toNat_lt
      have least : limit32 ≤ countOfBytes command.layout.pointerWidth.bytes := by
        cases command.layout.pointerWidth <;> decide
      rw [Nat.mod_eq_of_lt (by omega)] at read
      simp only [ReadsBack, Command.address, read]
      change (if address.raw.toNat < limit32 then _ else _) = _
      rw [if_pos bound, UInt32.ofNat_toNat]
      rfl

end Field

/-- Fields that lie behind the two header bytes of a command of the given size, and apart. -/
structure WellPlaced (size : UInt8) (fields : List Field) : Prop where
  inside : ∀ field ∈ fields, 2 ≤ field.offset ∧ field.stop ≤ size.toNat
  apart : fields.Pairwise Field.Apart

instance (size : UInt8) (fields : List Field) : Decidable (WellPlaced size fields) :=
  decidable_of_iff ((∀ field ∈ fields, 2 ≤ field.offset ∧ field.stop ≤ size.toNat) ∧
      fields.Pairwise Field.Apart)
    ⟨fun ⟨inside, apart⟩ => ⟨inside, apart⟩, fun ⟨inside, apart⟩ => ⟨inside, apart⟩⟩

def blank (layout : Layout) (code size : UInt8) : Bytes :=
  #[code, size] ++ Array.replicate (max (layout.commandBytes size) 2 - 2) 0

/-- A command with its fields, those that are labels left blank. -/
def encoded (layout : Layout) (code size : UInt8) (fields : List Field) : Bytes :=
  fields.foldl (Field.write layout (layout.orderOf code)) (blank layout code size)

section Encoded

variable {layout : Layout} {code size : UInt8} {fields reordered : List Field} {field : Field}

theorem size_blank : (blank layout code size).size = max (layout.commandBytes size) 2 := by
  simp only [blank, Array.size_append, Array.size_replicate, List.size_toArray, List.length_cons,
    List.length_nil]
  omega

theorem size_foldl_write {order : ByteOrder} {bytes : Bytes} :
    (fields.foldl (Field.write layout order) bytes).size = bytes.size := by
  induction fields generalizing bytes with
  | nil => rfl
  | cons field rest ih => rw [List.foldl_cons, ih, Field.size_write]

theorem size_encoded :
    (encoded layout code size fields).size = max (layout.commandBytes size) 2 := by
  rw [encoded, size_foldl_write, size_blank]

theorem commandBytes_of_le (least : 2 ≤ size.toNat) :
    max (layout.commandBytes size) 2 = layout.commandBytes size := by
  unfold Layout.commandBytes
  cases layout.pointerWidth <;> simp only [PointerWidth.scale] <;> omega

namespace WellPlaced

theorem perm (placed : WellPlaced size fields) (same : fields.Perm reordered) :
    WellPlaced size reordered where
  inside := fun field found => placed.inside field (same.mem_iff.mpr found)
  apart := (same.pairwise_iff Field.Apart.symm).mp placed.apart

theorem end_le (placed : WellPlaced size fields) (layout : Layout) (found : field ∈ fields) :
    layout.place field.offset + field.value.width layout.pointerWidth ≤
      layout.commandBytes size :=
  field.end_le_commandBytes layout (placed.inside field found).2

theorem two_le_place (placed : WellPlaced size fields) (layout : Layout)
    (found : field ∈ fields) :
    2 ≤ layout.place field.offset := by
  obtain ⟨behind, inside⟩ := placed.inside field found
  have bound := size.toNat_lt
  have stops : field.offset ≤ field.stop := Nat.le_add_right _ _
  exact Nat.le_trans behind (Layout.le_place (by unfold limit64; omega))

theorem write_comm (placed : WellPlaced size fields) {other : Field} (found : field ∈ fields)
    (also : other ∈ fields) (order : ByteOrder) (bytes : Bytes) :
    other.write layout order (field.write layout order bytes) =
      field.write layout order (other.write layout order bytes) := by
  by_cases same : field = other
  · rw [same]
  have fieldLength := field.length_content_le layout order
  have otherLength := other.length_content_le layout order
  have bound := size.toNat_lt
  have fieldStop := (placed.inside field found).2
  have otherStop := (placed.inside other also).2
  apply overwrite_comm
  rcases placed.apart.forall found also same with before | after
  · left
    have ends := field.end_le_place_stop layout (by unfold limit64; omega)
    have follows : layout.place field.stop ≤ layout.place other.offset :=
      Layout.place_mono before (by unfold Field.stop at otherStop; unfold limit64; omega)
    omega
  · right
    have ends := other.end_le_place_stop layout (by unfold limit64; omega)
    have follows : layout.place other.stop ≤ layout.place field.offset :=
      Layout.place_mono after (by unfold Field.stop at fieldStop; unfold limit64; omega)
    omega

end WellPlaced

theorem encoded_perm (placed : WellPlaced size fields) (same : fields.Perm reordered) :
    encoded layout code size reordered = encoded layout code size fields :=
  (same.foldl_eq' (fun _ found _ also => placed.write_comm found also _) _).symm

theorem getElem?_foldl_write_of_uncovered {order : ByteOrder} {bytes : Bytes} {index : Nat}
    (bare : ∀ field ∈ fields, ¬field.Covers layout index) :
    (fields.foldl (Field.write layout order) bytes)[index]? = bytes[index]? := by
  induction fields generalizing bytes with
  | nil => rfl
  | cons field rest ih =>
    have outside := bare field List.mem_cons_self
    have length := field.length_content_le layout order
    unfold Field.Covers at outside
    rw [List.foldl_cons, ih fun other found => bare other (List.mem_cons_of_mem _ found),
      Field.write, getElem?_overwrite, if_neg (by omega)]

theorem WellPlaced.not_covers (placed : WellPlaced size fields) {index : Nat} (header : index < 2) :
    ∀ field ∈ fields, ¬field.Covers layout index := by
  intro field found covers
  have behind := placed.two_le_place layout found
  unfold Field.Covers at covers
  omega

/-- Any field may be taken for the one that was written last. -/
theorem WellPlaced.written_last (placed : WellPlaced size fields) (found : field ∈ fields) :
    encoded layout code size fields =
      field.write layout (layout.orderOf code) (encoded layout code size (fields.erase field)) := by
  have last : fields.Perm (fields.erase field ++ [field]) :=
    (List.perm_cons_erase found).trans (List.perm_append_singleton field _).symm
  rw [← encoded_perm placed last]
  exact List.foldl_append

def decoded (layout : Layout) (pointer : Pointer) (code size : UInt8) (fields : List Field) :
    Command :=
  ⟨pointer, code, size, encoded layout code size fields, layout⟩

theorem decode_encoded (layout : Layout) (code : UInt8) (least : 2 ≤ size.toNat)
    (placed : WellPlaced size fields) (front rest : Bytes) (buffer : Nat) :
    Command.decode layout (front ++ encoded layout code size fields ++ rest) ⟨buffer, front.size⟩ =
      .ok (decoded layout ⟨buffer, front.size⟩ code size fields) := by
  have length : (encoded layout code size fields).size = layout.commandBytes size := by
    rw [size_encoded, commandBytes_of_le least]
  have enough : 2 ≤ (encoded layout code size fields).size := by rw [size_encoded]; omega
  have header (index : Nat) (inside : index < 2) :
      (front ++ encoded layout code size fields ++ rest)[front.size + index]? =
        #[code, size][index]? := by
    rw [Array.getElem?_append_left (by rw [Array.size_append]; omega),
      Array.getElem?_append_right (by omega), Nat.add_sub_cancel_left, encoded,
      getElem?_foldl_write_of_uncovered (placed.not_covers inside), blank,
      Array.getElem?_append_left (by simpa using inside)]
  have positive : size ≠ 0 := by
    rintro rfl
    exact absurd least (by decide)
  have room : ¬(front ++ encoded layout code size fields ++ rest).size <
      front.size + layout.commandBytes size := by
    rw [Array.size_append, Array.size_append]
    omega
  have body : (front ++ encoded layout code size fields ++ rest).extract front.size
      (front.size + layout.commandBytes size) = encoded layout code size fields := by
    rw [← length, Array.append_assoc, Array.extract_append, Array.extract_append]
    simp
  have opcode := header 0 (by decide)
  have second := header 1 (by decide)
  rw [Nat.add_zero] at opcode
  rw [Command.decode, opcode]
  simp only [second, List.getElem?_toArray, List.getElem?_cons_zero, List.getElem?_cons_succ,
    if_neg positive, if_neg room, body, decoded]

theorem operand_decoded (placed : WellPlaced size fields) (found : field ∈ fields)
    (plain : field.label? = none) (pointer : Pointer) :
    (decoded layout pointer code size fields).operand field.offset
        (field.value.width layout.pointerWidth) =
      .ok (field.value.number % countOfBytes (field.value.width layout.pointerWidth)) := by
  have ends := placed.end_le layout found
  have room (others : List Field) : layout.place field.offset +
      field.value.width layout.pointerWidth ≤ (encoded layout code size others).size := by
    rw [size_encoded]
    omega
  have reached : layout.place field.offset + field.value.width layout.pointerWidth < limit64 :=
    Nat.lt_of_le_of_lt ends (Layout.commandBytes_lt size)
  have read : ((encoded layout code size fields).extract (layout.place field.offset)
      (layout.place field.offset + field.value.width layout.pointerWidth)).toList =
        field.content layout (layout.orderOf code) := by
    rw [← field.length_content layout (layout.orderOf code) plain] at room ⊢
    rw [placed.written_last found, Field.write]
    exact extract_overwrite (room _)
  have taken := @Command.operand_eq_ok (decoded layout pointer code size fields) field.offset
    (field.value.width layout.pointerWidth) reached (room fields)
  rw [taken]
  simp only [decoded, read, Command.order]
  rw [field.content_eq plain, ByteOrder.decode_encode]

theorem readsBack_decoded (placed : WellPlaced size fields) (found : field ∈ fields)
    (pointer : Pointer) : field.ReadsBack (decoded layout pointer code size fields) := by
  cases named : field.label? with
  | none => exact .of_operand named (operand_decoded placed found named pointer)
  | some label => exact .of_label named

/-- What a command shows of the opcode, the size and the fields it was emitted with. -/
structure Carries (layout : Layout) (command : Command) (code size : UInt8) (fields : List Field) :
    Prop where
  laidOut : command.layout = layout
  opcodeByte : command.code = code
  sizeByte : command.size = size
  length : command.length = layout.commandBytes size
  reads : ∀ field ∈ fields, field.ReadsBack command
  blank : ∀ index, 2 ≤ index → index < command.length →
    (∀ field ∈ fields, ¬field.Covers layout index) → command.body[index]? = some 0

theorem carries_decoded (least : 2 ≤ size.toNat) (placed : WellPlaced size fields)
    (pointer : Pointer) :
    Carries layout (decoded layout pointer code size fields) code size fields where
  laidOut := rfl
  opcodeByte := rfl
  sizeByte := rfl
  length := by rw [Command.length, decoded, size_encoded, commandBytes_of_le least]
  reads _ found := readsBack_decoded placed found pointer
  blank index behind inside bare := by
    rw [Command.length, decoded, size_encoded] at inside
    rw [decoded, encoded, getElem?_foldl_write_of_uncovered bare, Assembly.blank,
      Array.getElem?_append_right (by simpa using behind), Array.getElem?_replicate,
      if_pos (by simp only [List.size_toArray, List.length_cons, List.length_nil]; omega)]

end Encoded

def Draft.Reaches (draft : Draft) (fields : List Field) : Prop :=
  ∀ field ∈ fields, field.label? ≠ none → draft.here + draft.layout.place field.offset < limit64

section Emission

variable {draft next : Draft} {code size : UInt8} {fields reordered : List Field} {field : Field}

theorem Draft.writeField_eq_ok {order : ByteOrder} {front body : Bytes}
    (inside : draft.layout.place field.offset +
      field.value.width draft.layout.pointerWidth ≤ body.size) :
    writeField front.size order { draft with bytes := front ++ body } field = .ok next ↔
      (field.label? ≠ none → front.size + draft.layout.place field.offset < limit64) ∧
        next = { draft with
          bytes := front ++ field.write draft.layout order body
          references := draft.references ++
            (field.reference? front.size draft.layout order).toList.toArray } := by
  cases named : field.label? with
  | some label =>
    have written : field.write draft.layout order body = body := by
      rw [Field.write, Field.content_of_label named, overwrite]
    simp only [writeField, Field.value_of_label named, Field.reference?, named, written]
    by_cases reached : limit64 ≤ front.size + draft.layout.place field.offset
    · rw [if_pos reached]
      constructor
      · nofun
      · rintro ⟨below, -⟩
        exact absurd (below nofun) (Nat.not_lt.mpr reached)
    · rw [if_neg reached, Except.ok.injEq]
      simp [Nat.not_le.mp reached, eq_comm]
  | none =>
    have length := Field.length_content draft.layout order named
    have fits : front.size + draft.layout.place field.offset +
        (field.content draft.layout order).length ≤ (front ++ body).size := by
      rw [Array.size_append]
      omega
    have written : writeField front.size order { draft with bytes := front ++ body } field =
        .ok { draft with bytes := front ++ field.write draft.layout order body } := by
      have general : writeField front.size order { draft with bytes := front ++ body } field = do
          let bytes ← overwrite? (front ++ body) (front.size + draft.layout.place field.offset)
            (field.content draft.layout order)
          return { draft with bytes } := by
        obtain ⟨offset, value⟩ := field
        rcases value with _ | _ | _ | _ | _ | _ | (_ | _) <;> first | rfl | cases named
      rw [general, overwrite?, if_pos fits, overwrite_append_right]
      rfl
    rw [written, Except.ok.injEq]
    simp [Field.reference?, named, eq_comm]

theorem Draft.foldlM_writeField_eq_ok {order : ByteOrder} {front body : Bytes}
    (inside : ∀ field ∈ fields, draft.layout.place field.offset +
      field.value.width draft.layout.pointerWidth ≤ body.size) :
    fields.foldlM (writeField front.size order) { draft with bytes := front ++ body } = .ok next ↔
      (∀ field ∈ fields, field.label? ≠ none →
        front.size + draft.layout.place field.offset < limit64) ∧
        next = { draft with
          bytes := front ++ fields.foldl (Field.write draft.layout order) body
          references := draft.references ++
            (fields.filterMap (Field.reference? front.size draft.layout order)).toArray } := by
  induction fields generalizing draft body with
  | nil => simp [pure, Except.pure, eq_comm]
  | cons field rest ih =>
    have first := inside field List.mem_cons_self
    have others : ∀ other ∈ rest, draft.layout.place other.offset +
        other.value.width draft.layout.pointerWidth ≤
          (field.write draft.layout order body).size := fun other found => by
      rw [Field.size_write]
      exact inside other (List.mem_cons_of_mem _ found)
    have emission := @ih { draft with references := draft.references ++
      (field.reference? front.size draft.layout order).toList.toArray } _ others
    have references : draft.references ++
        (field.reference? front.size draft.layout order).toList.toArray ++
          (rest.filterMap (Field.reference? front.size draft.layout order)).toArray =
        draft.references ++
          ((field :: rest).filterMap (Field.reference? front.size draft.layout order)).toArray := by
      rw [Array.append_assoc, List.filterMap_cons]
      cases field.reference? front.size draft.layout order <;> simp
    simp only [references] at emission
    simp only [List.foldlM_cons, bind_eq_ok, writeField_eq_ok first, List.forall_mem_cons,
      List.foldl_cons]
    constructor
    · rintro ⟨_, ⟨reached, rfl⟩, emitted⟩
      obtain ⟨further, rfl⟩ := emission.mp emitted
      exact ⟨⟨reached, further⟩, rfl⟩
    · rintro ⟨⟨reached, further⟩, rfl⟩
      exact ⟨_, ⟨reached, rfl⟩, emission.mpr ⟨further, rfl⟩⟩

/-- Fields that are well placed are emitted unless a label lies where no offset leads. -/
theorem Draft.emitSized_eq_ok (least : 2 ≤ size.toNat) (placed : WellPlaced size fields) :
    draft.emitSized code size fields = .ok next ↔
      draft.Reaches fields ∧
        next = { draft with
          bytes := draft.bytes ++ encoded draft.layout code size fields
          references := draft.references ++ (fields.filterMap
            (Field.reference? draft.here draft.layout (draft.layout.orderOf code))).toArray } :=
  foldlM_writeField_eq_ok fun field found => by
    change _ ≤ (blank draft.layout code size).size
    rw [size_blank, commandBytes_of_le least]
    exact placed.end_le draft.layout found

/-- Fields in any order are emitted as one and the same command, which reads back as what was
written. Only their places in the narrow layout matter. -/
theorem Draft.emitSized_roundTrips (draft : Draft) (code size : UInt8) (fields : List Field)
    (least : 2 ≤ size.toNat) (placed : WellPlaced size fields)
    (plain : ∀ field ∈ fields, field.label? = none) :
    ∃ body : Bytes,
      (∀ reordered, fields.Perm reordered →
        draft.emitSized code size reordered = .ok { draft with bytes := draft.bytes ++ body }) ∧
      ∀ (buffer : Nat) (rest : Bytes), ∃ command,
        Command.decode draft.layout (draft.bytes ++ body ++ rest) ⟨buffer, draft.here⟩ =
          .ok command ∧
        command.body = body ∧ Carries draft.layout command code size fields := by
  refine ⟨encoded draft.layout code size fields, fun reordered same => ?_, fun buffer rest =>
    ⟨_, decode_encoded draft.layout code least placed draft.bytes rest buffer, rfl,
      carries_decoded least placed _⟩⟩
  have bare : reordered.filterMap (Field.reference? draft.here draft.layout
      (draft.layout.orderOf code)) = [] := by
    refine List.filterMap_eq_nil_iff.mpr fun field found => ?_
    rw [Field.reference?, plain field (same.mem_iff.mpr found), Option.map_none]
  refine (emitSized_eq_ok least (placed.perm same)).mpr ⟨fun field found named => ?_, ?_⟩
  · exact absurd (plain field (same.mem_iff.mpr found)) named
  · rw [bare, encoded_perm placed same]
    simp

/-- Fields in no order, most of them across the words of the narrow layout. -/
def straddling : List Field :=
  [⟨13, .i32 (-2)⟩, ⟨3, .u16 0xBEEF⟩, ⟨17, .target (.address ⟨0x0E000010⟩)⟩, ⟨2, .u8 7⟩,
    ⟨6, .pointer 0x0123456789ABCDEF⟩]

theorem Draft.emitSized_roundTrips_straddling :
    ∃ body : Bytes,
      (∀ reordered, straddling.Perm reordered →
        (fresh ⟨.wide, .big⟩ 14 0).emitSized 0x3B 22 reordered =
          .ok { fresh ⟨.wide, .big⟩ 14 0 with bytes := #[] ++ body }) ∧
      ∀ (buffer : Nat) (rest : Bytes), ∃ command,
        Command.decode ⟨.wide, .big⟩ (#[] ++ body ++ rest) ⟨buffer, 0⟩ = .ok command ∧
        command.body = body ∧ Carries ⟨.wide, .big⟩ command 0x3B 22 straddling :=
  emitSized_roundTrips (fresh ⟨.wide, .big⟩ 14 0) 0x3B 22 straddling (by decide) (by decide)
    (by decide)

end Emission

end Assembly

end StageScript
