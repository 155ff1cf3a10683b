namespace Quartet

/-!
# Computations that may fail

* `bind_eq_ok_iff`, `bind_eq_error_iff` — what one computation after another comes to.
* `not_exists_error_iff` — a computation that does not fail succeeds.
-/

variable {ε α β : Type}

theorem ok_bind (value : α) (next : α → Except ε β) : (.ok value >>= next) = next value := rfl

/-- Two computations succeed if the first does and then the second. -/
theorem bind_eq_ok_iff {first : Except ε α} {next : α → Except ε β} {result : β} :
    (first >>= next) = .ok result ↔ ∃ value, first = .ok value ∧ next value = .ok result := by
  cases first <;> simp [bind, Except.bind]

/-- Two computations fail if the first does, or if it succeeds and then the second fails. -/
theorem bind_eq_error_iff {first : Except ε α} {next : α → Except ε β} {error : ε} :
    (first >>= next) = .error error ↔
      first = .error error ∨ ∃ value, first = .ok value ∧ next value = .error error := by
  cases first <;> simp [bind, Except.bind]

theorem not_exists_error_iff {result : Except ε α} :
    (¬ ∃ error, result = .error error) ↔ ∃ value, result = .ok value := by
  cases result <;> simp

end Quartet
