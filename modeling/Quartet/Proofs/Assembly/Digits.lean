import Quartet.Assembly.Operand
import Mathlib.Data.List.TakeWhile
import Mathlib.Data.Nat.Digits.Defs

namespace Quartet

/-!
# Runs of digits

A number is written with the ten ASCII digits and with nothing else.  The run of digits that
characters start with is taken as far as it goes, and its value is the sum of its digits, each of
which counts ten times as much as the next.

* `Operand.digits`, `Operand.LeadingRun` — the ten digits, and the longest run of them that
  characters start with.
* `Operand.runValue`, `Operand.decimal_eq_runValue` — the value of a run, digit by digit.
* `Operand.number_of_leadingRun` — the number that is read.
-/

namespace Operand

/-! ### The longest run -/

/-- The ten digits, each at the position that is its value. -/
def digits : List Char := ['0', '1', '2', '3', '4', '5', '6', '7', '8', '9']

theorem mem_digits_iff {c : Char} : c ∈ digits ↔ c.isDigit = true := by
  constructor
  · intro h
    simp only [digits, List.mem_cons, List.not_mem_nil, or_false] at h
    rcases h with rfl | rfl | rfl | rfl | rfl | rfl | rfl | rfl | rfl | rfl <;> rfl
  · intro h
    simp only [Char.isDigit, Bool.and_eq_true, decide_eq_true_eq, ge_iff_le,
      UInt32.le_iff_toNat_le] at h
    obtain ⟨hlow, hhigh⟩ : 48 ≤ c.toNat ∧ c.toNat ≤ 57 := h
    have hall : ∀ n < 58, 48 ≤ n → Char.ofNat n ∈ digits := by decide
    rw [← Char.ofNat_toNat c]
    exact hall c.toNat (by omega) hlow

/-- Whether a run is the longest run of digits that characters start with. -/
structure LeadingRun (chars run : List Char) : Prop where
  starts : run <+: chars
  solid : ∀ c ∈ run, c ∈ digits
  longest : ∀ other, other <+: chars → (∀ c ∈ other, c ∈ digits) → other.length ≤ run.length

/-- Characters start with one longest run of digits. -/
theorem LeadingRun.unique {chars run other : List Char} (h : LeadingRun chars run)
    (h' : LeadingRun chars other) : run = other := by
  have hle := h'.longest run h.starts h.solid
  have hge := h.longest other h'.starts h'.solid
  exact (List.prefix_of_prefix_length_le h.starts h'.starts hle).eq_of_length (by omega)

/-- The digits taken from the front, up to a character that is none, are the longest run. -/
theorem leadingRun_takeWhile (chars : List Char) :
    LeadingRun chars (chars.takeWhile Char.isDigit) where
  starts := List.takeWhile_prefix _
  solid := fun c hc => mem_digits_iff.mpr (List.mem_takeWhile_imp hc)
  longest := by
    rintro other ⟨rest, rfl⟩ hdigits
    have hother : ∀ c ∈ other, c.isDigit = true := fun c hc => mem_digits_iff.mp (hdigits c hc)
    rw [List.takeWhile_append_of_pos hother, List.length_append]
    omega

theorem leadingRun_iff {chars run : List Char} :
    LeadingRun chars run ↔ chars.takeWhile Char.isDigit = run := by
  constructor
  · exact fun h => (leadingRun_takeWhile chars).unique h
  · rintro rfl
    exact leadingRun_takeWhile chars

/-- A run of digits that does not go on is the longest one. -/
theorem leadingRun_of_append {run junk : List Char} (hrun : ∀ c ∈ run, c ∈ digits)
    (hjunk : ∀ c ∈ junk.head?, c ∉ digits) : LeadingRun (run ++ junk) run := by
  have hnone : junk.takeWhile Char.isDigit = [] := by
    cases junk with
    | nil => rfl
    | cons c rest =>
      exact List.takeWhile_cons_of_neg fun hc => hjunk c rfl (mem_digits_iff.mpr hc)
  rw [leadingRun_iff, List.takeWhile_append_of_pos fun c hc => mem_digits_iff.mp (hrun c hc),
    hnone, List.append_nil]

/-! ### Values -/

/-- The value of a run of digits: each counts ten times as much as the next. -/
def runValue (run : List Char) : Nat := Nat.ofDigits 10 (run.reverse.map (digits.idxOf ·))

theorem digitValue_eq_idxOf {c : Char} (h : c ∈ digits) : Text.digitValue c = digits.idxOf c := by
  simp only [digits, List.mem_cons, List.not_mem_nil, or_false] at h
  rcases h with rfl | rfl | rfl | rfl | rfl | rfl | rfl | rfl | rfl | rfl <;> rfl

/-- Reading a run from the left comes to the sum of its digits, each with its weight. -/
theorem decimal_eq_runValue {run : List Char} (h : ∀ c ∈ run, c ∈ digits) :
    Text.decimal run = runValue run := by
  have hreverse : ∀ c ∈ run.reverse, c ∈ digits := fun c hc => h c (List.mem_reverse.mp hc)
  rw [Text.decimal, runValue, List.foldl_eq_foldr_reverse]
  -- the last digit is the first of the reversed run, and counts as it is
  generalize run.reverse = reversed at hreverse
  induction reversed with
  | nil => rfl
  | cons c rest ih =>
    obtain ⟨hc, hrest⟩ := List.forall_mem_cons.mp hreverse
    rw [List.foldr_cons, ih hrest, List.map_cons, Nat.ofDigits_cons, digitValue_eq_idxOf hc]
    exact Nat.add_comm _ _

/-- Zeros in front of a run count nothing. -/
theorem runValue_replicate_zero (zeros : Nat) (run : List Char) :
    runValue (List.replicate zeros '0' ++ run) = runValue run := by
  have hzeros : (List.replicate zeros '0').map (digits.idxOf ·) = List.replicate zeros 0 :=
    List.map_replicate
  rw [runValue, List.reverse_append, List.reverse_replicate, List.map_append, hzeros,
    Nat.ofDigits_append_replicate_zero, runValue]

/-! ### Reading -/

/-- The value of the leading run is the number, if there is one and a word holds it. -/
theorem number_of_leadingRun {chars run : List Char} (h : LeadingRun chars run) :
    number chars = if run = [] ∨ 2 ^ 32 ≤ runValue run then .error .invalidNumber
      else .ok (UInt32.ofNat (runValue run)) := by
  rw [number, leadingRun_iff.mp h, decimal_eq_runValue h.solid]
  have hsize : runValue run < UInt32.size ↔ ¬ 2 ^ 32 ≤ runValue run := Nat.not_le.symm
  by_cases hempty : run = []
  · rw [if_pos (by simp [hempty]), if_pos (.inl hempty)]
  · rw [if_neg (by simp [hempty])]
    by_cases hlarge : 2 ^ 32 ≤ runValue run
    · rw [if_neg (fun hlt => hsize.mp hlt hlarge), if_pos (.inr hlarge)]
    · rw [if_pos (hsize.mpr hlarge), if_neg (not_or.mpr ⟨hempty, hlarge⟩)]

/-- A number is read exactly if there is a digit, and its value is that of the leading run. -/
theorem number_eq_ok_of_leadingRun {chars run : List Char} (h : LeadingRun chars run)
    (value : Word) : number chars = .ok value ↔ run ≠ [] ∧ value.toNat = runValue run := by
  rw [number_of_leadingRun h]
  by_cases hrefused : run = [] ∨ 2 ^ 32 ≤ runValue run
  · rw [if_pos hrefused]
    constructor
    · intro hvalue
      cases hvalue
    · rintro ⟨hne, hvalue⟩
      have hlt := value.toNat_lt
      rcases hrefused with hempty | hlarge
      · exact absurd hempty hne
      · omega
  · obtain ⟨hne, hfits⟩ := not_or.mp hrefused
    rw [if_neg hrefused, Except.ok.injEq, ← UInt32.toNat_inj,
      UInt32.toNat_ofNat_of_lt' (Nat.not_le.mp hfits), eq_comm]
    exact (and_iff_right hne).symm

end Operand

end Quartet
