import StageScript.Listing
import StageScript.Proofs.Results

/-!
Texts that are all on one line. Numbers, mnemonics, operands and the messages of faults are, so what
stands between two ends of lines in a listing is the text of one of its lines.
-/

namespace StageScript

def SingleLine (text : String) : Prop := '\n' ∉ text.toList

instance (text : String) : Decidable (SingleLine text) :=
  inferInstanceAs (Decidable ('\n' ∉ text.toList))

theorem singleLine_toString {text : String} : SingleLine (toString text) ↔ SingleLine text :=
  Iff.rfl

theorem singleLine_append {text more : String} :
    SingleLine (text ++ more) ↔ SingleLine text ∧ SingleLine more := by
  rw [SingleLine, String.toList_append, List.mem_append, not_or]
  rfl

theorem singleLine_join {texts : List String} (all : ∀ text ∈ texts, SingleLine text) :
    SingleLine (String.join texts) := by
  rw [SingleLine, String.toList_join, List.mem_flatMap]
  rintro ⟨text, listed, ends⟩
  exact all text listed ends

theorem digitChar_of_mem_toDigits {base number : Nat} {digit : Char} (many : 1 < base)
    (listed : digit ∈ Nat.toDigits base number) : ∃ value < base, digit = Nat.digitChar value := by
  induction number using Nat.strongRecOn with
  | ind number ih =>
    rw [Nat.toDigits_eq_if many] at listed
    split at listed
    next small => exact ⟨number, small, List.mem_singleton.mp listed⟩
    next large =>
      rcases List.mem_append.mp listed with before | last
      · exact ih (number / base) (Nat.div_lt_self (by omega) many) before
      · exact ⟨number % base, Nat.mod_lt _ (by omega), List.mem_singleton.mp last⟩

theorem singleLine_ofNat (number : Nat) : SingleLine (toString number) := by
  rw [Nat.toString_eq_ofList_toDigits, SingleLine, String.toList_ofList]
  intro ends
  obtain ⟨value, small, same⟩ := digitChar_of_mem_toDigits (by decide) ends
  exact (by decide : ∀ value < 10, '\n' ≠ Nat.digitChar value) value small same

theorem singleLine_ofInt (number : Int) : SingleLine (toString number) := by
  cases number with
  | ofNat number => exact singleLine_ofNat number
  | negSucc number => exact singleLine_append.mpr ⟨by decide, singleLine_ofNat (number + 1)⟩

namespace Text.Hex

theorem singleLine_padded (width number : Nat) : SingleLine (padded width number) := by
  rw [padded, SingleLine, String.toList_ofList, List.leftpad, List.mem_append, not_or]
  constructor
  · intro ends
    cases List.eq_of_mem_replicate ends
  · intro ends
    obtain ⟨digit, listed, same⟩ := List.mem_map.mp ends
    obtain ⟨value, small, rfl⟩ := digitChar_of_mem_toDigits (by decide) listed
    exact (by decide : ∀ value < 16, (Nat.digitChar value).toUpper ≠ '\n') value small same

theorem singleLine_tagged (width number : Nat) : SingleLine (tagged width number) :=
  singleLine_append.mpr ⟨by decide, singleLine_padded width number⟩

end Text.Hex

open Text.Hex (singleLine_padded singleLine_tagged)

theorem Pointer.singleLine_text (pointer : Pointer) : SingleLine pointer.text := by
  simp only [text, singleLine_append, singleLine_toString]
  simp only [singleLine_ofNat, singleLine_tagged]
  decide

theorem ReadFault.singleLine_message (fault : ReadFault) : SingleLine fault.message := by
  unfold message
  split <;>
    simp only [singleLine_append, singleLine_toString] <;>
    simp only [singleLine_ofNat, singleLine_tagged, Pointer.singleLine_text] <;>
    decide

namespace Listing

theorem singleLine_comparisonText (code : UInt8) : SingleLine (comparisonText code) := by
  unfold comparisonText
  split
  next comparison _ => cases comparison <;> decide
  next => exact singleLine_append.mpr ⟨by decide, singleLine_ofNat code.toNat⟩

theorem singleLine_operandValue {command : Command} {style : Style} {offset : Nat} {value : String}
    (reads : operandValue command style offset = .ok value) : SingleLine value := by
  cases style <;>
    obtain ⟨read, _, same⟩ := bind_eq_ok.mp reads <;> cases same
  case u8 | u16 => exact singleLine_ofNat _
  case i16 | i32 => exact singleLine_ofInt _
  case hex | pointer => exact singleLine_tagged _ _
  case comparison => exact singleLine_comparisonText read

theorem singleLine_name {opcode : Opcode} : ∀ operand ∈ operands opcode, SingleLine operand.name := by
  cases opcode <;> decide

theorem singleLine_operandText (command : Command) {operand : Operand}
    (name : SingleLine operand.name) : SingleLine (operandText command operand) := by
  unfold operandText
  split <;> simp only [singleLine_append, singleLine_toString, name]
  next value reads => exact ⟨by decide, singleLine_operandValue reads⟩
  next fault _ => exact ⟨⟨by decide, fault.singleLine_message⟩, by decide⟩

theorem singleLine_unknownText (code : UInt8) : SingleLine (unknownText code) :=
  singleLine_append.mpr ⟨by decide, singleLine_tagged 2 code.toNat⟩

theorem singleLine_commandText (command : Command) : SingleLine (commandText command) := by
  unfold commandText
  split
  next => exact singleLine_unknownText command.code
  next opcode _ =>
    refine singleLine_append.mpr ⟨by cases opcode <;> decide, singleLine_join ?_⟩
    rw [List.forall_mem_map]
    exact fun operand listed => singleLine_operandText command (singleLine_name operand listed)

theorem Line.singleLine_text (line : Line) : SingleLine line.text := by
  have numbered (offset : Nat) : SingleLine (Text.Hex.padded 6 offset ++ ": ") :=
    singleLine_append.mpr ⟨singleLine_padded 6 offset, by decide⟩
  cases line with
  | command offset command =>
    exact singleLine_append.mpr ⟨numbered offset, singleLine_commandText command⟩
  | unknown offset code =>
    have unknown := singleLine_append.mpr ⟨numbered offset, singleLine_unknownText code⟩
    exact singleLine_append.mpr ⟨unknown, by decide⟩
  | broken offset fault =>
    have numbered : SingleLine (Text.Hex.padded 6 offset ++ ": ; ") :=
      singleLine_append.mpr ⟨singleLine_padded 6 offset, by decide⟩
    exact singleLine_append.mpr ⟨numbered, fault.singleLine_message⟩

end Listing

end StageScript
