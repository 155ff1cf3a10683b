import Quartet.Proofs.Result

namespace Quartet

/-!
# Checks one after the other

A computation that makes checks in a fixed order fails with the error of the first check that
fails, and succeeds if none does.  Computations of this kind are put together from smaller ones,
and so are their checks.

* `Check`, `Check.FirstFailure` — conditions with their errors, and the error that comes first.
* `Check.Governs` — checks that decide whether a computation fails, and with what.
* `Check.Governs.exists_ok_iff` — the computation succeeds if all checks hold.
* `Check.Governs.bind`, `Check.Governs.stop_unless`, `Check.Governs.foldlM` — one computation after
  another, a computation under a condition, and one for each item of a list.
-/

/-- A condition, and the error of a computation that finds it not to hold. -/
structure Check (ε : Type) where
  Holds : Prop
  error : ε

namespace Check

variable {ε α β : Type}

/-- The error of the first check that fails. -/
inductive FirstFailure : List (Check ε) → ε → Prop
  /-- The first check fails. -/
  | here {check : Check ε} {rest : List (Check ε)} (hfails : ¬ check.Holds) :
    FirstFailure (check :: rest) check.error
  /-- The first check holds, and one of the others fails. -/
  | later {check : Check ε} {rest : List (Check ε)} {error : ε} (hholds : check.Holds)
    (hrest : FirstFailure rest error) : FirstFailure (check :: rest) error

@[simp] theorem not_firstFailure_nil (error : ε) : ¬ FirstFailure [] error := nofun

theorem firstFailure_cons_iff {check : Check ε} {rest : List (Check ε)} {error : ε} :
    FirstFailure (check :: rest) error ↔
      ¬ check.Holds ∧ error = check.error ∨ check.Holds ∧ FirstFailure rest error := by
  constructor
  · intro h
    cases h with
    | here hfails => exact .inl ⟨hfails, rfl⟩
    | later hholds hrest => exact .inr ⟨hholds, hrest⟩
  · rintro (⟨hfails, rfl⟩ | ⟨hholds, hrest⟩)
    · exact .here hfails
    · exact .later hholds hrest

/-- The second checks count only if all of the first hold. -/
theorem firstFailure_append_iff {first second : List (Check ε)} {error : ε} :
    FirstFailure (first ++ second) error ↔
      FirstFailure first error ∨ (∀ check ∈ first, check.Holds) ∧ FirstFailure second error := by
  induction first with
  | nil => simp
  | cons check rest ih =>
    rw [List.cons_append, firstFailure_cons_iff, firstFailure_cons_iff, ih, List.forall_mem_cons,
      and_or_left, or_assoc, and_assoc]

/-- The error is that of a check which fails. -/
theorem FirstFailure.exists_mem {checks : List (Check ε)} {error : ε}
    (h : FirstFailure checks error) : ∃ check ∈ checks, ¬ check.Holds ∧ check.error = error := by
  induction h with
  | here hfails => exact ⟨_, List.mem_cons_self, hfails, rfl⟩
  | later _ _ ih =>
    obtain ⟨check, hmem, hfails⟩ := ih
    exact ⟨check, .tail _ hmem, hfails⟩

/-- There is an error exactly if not all checks hold. -/
theorem exists_firstFailure_iff {checks : List (Check ε)} :
    (∃ error, FirstFailure checks error) ↔ ¬ ∀ check ∈ checks, check.Holds := by
  induction checks with
  | nil => simp
  | cons check rest ih =>
    rw [List.forall_mem_cons, not_and]
    constructor
    · rintro ⟨error, h⟩ hholds
      cases h with
      | here hfails => exact absurd hholds hfails
      | later _ hrest => exact ih.mp ⟨error, hrest⟩
    · intro h
      by_cases hholds : check.Holds
      · obtain ⟨error, hrest⟩ := ih.mpr (h hholds)
        exact ⟨error, .later hholds hrest⟩
      · exact ⟨check.error, .here hholds⟩

/-- Whether checks decide if a computation fails, and with what: with the error of the first that
    fails. -/
def Governs (checks : List (Check ε)) (outcome : Except ε α) : Prop :=
  ∀ error, outcome = .error error ↔ FirstFailure checks error

namespace Governs

variable {checks : List (Check ε)} {outcome : Except ε α}

/-- A computation that never fails makes no checks. -/
theorem nil (h : ∀ error, outcome ≠ .error error) : Governs [] outcome := fun error =>
  iff_of_false (h error) (not_firstFailure_nil error)

/-- A computation that fails in one way alone makes one check. -/
theorem single {check : Check ε}
    (h : ∀ error, outcome = .error error ↔ ¬ check.Holds ∧ error = check.error) :
    Governs [check] outcome := by
  intro error
  rw [h, firstFailure_cons_iff]
  simp

/-- A computation succeeds exactly if all its checks hold. -/
theorem exists_ok_iff (h : Governs checks outcome) :
    (∃ value, outcome = .ok value) ↔ ∀ check ∈ checks, check.Holds := by
  constructor
  · rintro ⟨value, rfl⟩
    refine Classical.not_not.mp fun hnot => ?_
    obtain ⟨error, hfailure⟩ := exists_firstFailure_iff.mpr hnot
    cases (h error).mpr hfailure
  · intro hall
    cases outcome with
    | ok value => exact ⟨value, rfl⟩
    | error error => exact absurd hall (exists_firstFailure_iff.mp ⟨error, (h error).mp rfl⟩)

/-- A second computation makes its checks only if the first one succeeds. -/
theorem bind {checks' : List (Check ε)} {next : α → Except ε β} (h : Governs checks outcome)
    (hnext : ∀ value, outcome = .ok value → Governs checks' (next value)) :
    Governs (checks ++ checks') (outcome >>= next) := by
  intro error
  rw [bind_eq_error_iff, firstFailure_append_iff, h error]
  refine or_congr_right ?_
  constructor
  · rintro ⟨value, hvalue, herror⟩
    exact ⟨h.exists_ok_iff.mp ⟨value, hvalue⟩, (hnext value hvalue error).mp herror⟩
  · rintro ⟨hall, hfailure⟩
    obtain ⟨value, hvalue⟩ := h.exists_ok_iff.mpr hall
    exact ⟨value, hvalue, (hnext value hvalue error).mpr hfailure⟩

/-- The first of several checks decides whether the others are made. -/
theorem cons {check : Check ε} {checks' : List (Check ε)} {next : α → Except ε β}
    (h : Governs [check] outcome)
    (hnext : ∀ value, outcome = .ok value → Governs checks' (next value)) :
    Governs (check :: checks') (outcome >>= next) :=
  h.bind hnext

/-- Making something of the result makes no further checks. -/
theorem bind_pure (h : Governs checks outcome) (make : α → β) :
    Governs checks (outcome >>= fun value => pure (make value)) := by
  have hmade : ∀ value, outcome = .ok value → Governs [] (pure (make value) : Except ε β) :=
    fun _ _ => nil nofun
  have hbind := h.bind hmade
  rwa [List.append_nil] at hbind

/-- A computation that stops unless a condition holds checks the condition first. -/
theorem stop_unless {condition : Prop} [Decidable (¬ condition)] {error : ε} {stop : Except ε α}
    (hstop : stop = .error error) (h : Governs checks outcome) :
    Governs (⟨condition, error⟩ :: checks) (if ¬ condition then stop else outcome) := by
  intro found
  rw [firstFailure_cons_iff]
  by_cases hcondition : condition
  · rw [if_neg (not_not_intro hcondition), h found]
    simp [hcondition]
  · rw [if_pos hcondition, hstop]
    simp [hcondition, eq_comm]

/-- A computation that is made for each item of a list, one after the other, makes one check for
    each item, if each time it makes the check of its item. -/
theorem foldlM {step : β → α → Except ε β} {check : α → Check ε} (items : List α)
    (hstep : ∀ item ∈ items, ∀ state, Governs [check item] (step state item)) (state : β) :
    Governs (items.map check) (items.foldlM step state) := by
  induction items generalizing state with
  | nil => exact nil nofun
  | cons item rest ih =>
    obtain ⟨hitem, hrest⟩ := List.forall_mem_cons.mp hstep
    rw [List.map_cons, List.foldlM_cons]
    exact (hitem state).cons fun next _ => ih hrest next

end Governs

end Check

end Quartet
