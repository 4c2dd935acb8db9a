/-!
Results that may be errors, as `Except` has them.
-/

namespace StageScript

variable {ε α β : Type}

theorem bind_eq_ok {first : Except ε α} {rest : α → Except ε β} {result : β} :
    first >>= rest = .ok result ↔ ∃ value, first = .ok value ∧ rest value = .ok result := by
  cases first <;> simp [bind, Except.bind]

theorem ok_bind (value : α) (rest : α → Except ε β) : Except.ok value >>= rest = rest value := rfl

theorem map_eq_ok {result : Except ε α} {change : α → β} {value : β}
    (mapped : result.map change = .ok value) : ∃ plain, result = .ok plain ∧ change plain = value := by
  cases result with
  | error => cases mapped
  | ok plain => exact ⟨plain, rfl, Except.ok.inj mapped⟩

theorem toOption_eq_some {result : Except ε α} {value : α} :
    result.toOption = some value ↔ result = .ok value := by
  cases result <;> simp [Except.toOption]

end StageScript
