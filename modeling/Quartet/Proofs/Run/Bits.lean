import Quartet.Proofs.CodeWord.Reading
import Quartet.Proofs.Machine.Effect
import Quartet.Proofs.Run.Course

namespace Quartet

/-!
# Where bits come from

Instructions move words about and join them, but they make no bits: each bit that is set in the
machine was set in it before, or in a constant that was loaded.  So words never grow beyond what
constants can hold.

* `Machine.Every` — a property of all words of a machine.
* `Machine.execute_every`, `Machine.runs_every` — a property that constants have and that joining
  words keeps is kept by instructions, and by one run after the other.
* `Machine.bits_runs` — where the bits of a machine come from, and how large its words get.
-/

namespace CodeWord

/-- Whether one of the words of a stream loads a constant. -/
def Loads (layout : Layout) (code : List UInt8) (constant : Word) : Prop :=
  ∃ word destination, .ok word ∈ ofStream code ∧
    decode layout word = .ok (.loadConstant destination constant)

/-- The constants of a stream fit in the field that the layout reads them from. -/
theorem Loads.fits {layout : Layout} {code : List UInt8} {constant : Word} {field : Field}
    (h : Loads layout code constant) (hfield : (layout.fields .loadConstant)[1]? = some field) :
    field.Fits constant := by
  obtain ⟨word, destination, -, hread⟩ := h
  have hfits := fits_of_decode hread
  refine hfits (field, constant) (List.mem_of_getElem? (i := 1) ?_)
  rw [List.getElem?_zip_eq_some]
  exact ⟨hfield, rfl⟩

end CodeWord

namespace Machine

/-- Whether every word of a machine has a property. -/
def Every (P : Word → Prop) (machine : Machine) : Prop :=
  ∀ address word, machine.get? address = some word → P word

/-- Whether a bit is set in one of the words of a machine. -/
def HasBit (machine : Machine) (k : Nat) : Prop :=
  ∃ address word, machine.get? address = some word ∧ word.toNat.testBit k = true

/-- The machine after one run after the other. -/
def runs (machine : Machine) (options : RunOptions) (codes : List (List UInt8)) : Machine :=
  codes.foldl (fun machine code => (machine.run options code).machine) machine

/-! ### Words of one kind -/

/-- Every word of the zero machine is zero. -/
theorem eq_zero_of_get?_zero {address : Address} {word : Word} (h : zero.get? address = some word) :
    word = 0 := by
  cases address <;> simp [get?, zero, Vector.getElem?_replicate] at h <;> exact h.2.symm

section

variable {P : Word → Prop} (hjoin : ∀ left right, P left → P right → P (left ||| right))

include hjoin

/-- The word that an instruction writes is a constant, a word of the machine, or two of them
    joined. -/
theorem Writes.kept {machine : Machine} {instruction : Instruction} {address : Address}
    {value : Word} (hwrites : machine.Writes instruction address value) (h : machine.Every P)
    (hconstant : ∀ destination constant, instruction = .loadConstant destination constant →
      P constant) : P value := by
  cases hwrites with
  | loadConstant => exact hconstant _ _ rfl
  | memoryRead hpointer hvalue => exact h _ _ hvalue
  | memoryWrite hvalue hpointer => exact h _ _ hvalue
  | bitwiseOr hleft hright => exact hjoin _ _ (h _ _ hleft) (h _ _ hright)

/-- An instruction keeps what its constant and all words of the machine have in common. -/
theorem execute_every {machine after : Machine} {instruction : Instruction} (h : machine.Every P)
    (hconstant : ∀ destination constant, instruction = .loadConstant destination constant →
      P constant)
    (hexecute : machine.execute instruction = .ok after) : after.Every P := by
  obtain ⟨address, value, hwrites, hafter⟩ := (execute_eq_ok_iff _ _ _).mp hexecute
  intro other word hget
  by_cases heq : other = address
  · rw [heq, get?_of_set? hafter] at hget
    cases hget
    exact hwrites.kept hjoin h hconstant
  · rw [get?_of_set?_ne hafter heq] at hget
    exact h other word hget

/-- A run keeps what the constants of its stream and all words of the machine have in common. -/
theorem run_every {machine : Machine} (options : RunOptions) (code : List UInt8)
    (h : machine.Every P)
    (hconstants : ∀ constant, CodeWord.Loads options.layout code constant → P constant) :
    (machine.run options code).machine.Every P := by
  rw [machine_run]
  refine visitAll_invariant ?_ h
  intro before after instruction word hmem hread hexecute hbefore
  refine execute_every hjoin hbefore ?_ hexecute
  rintro destination constant rfl
  exact hconstants constant ⟨word, destination, hmem, hread⟩

/-- One run after the other keeps what the constants of the streams and all words of the machine
    have in common. -/
theorem runs_every {machine : Machine} (options : RunOptions) (codes : List (List UInt8))
    (h : machine.Every P)
    (hconstants : ∀ code ∈ codes, ∀ constant, CodeWord.Loads options.layout code constant →
      P constant) : (machine.runs options codes).Every P := by
  -- the machine varies, since each run starts where the one before it ended
  induction codes generalizing machine with
  | nil => exact h
  | cons code rest ih =>
    obtain ⟨hcode, hrest⟩ := List.forall_mem_cons.mp hconstants
    exact ih (run_every hjoin options code h hcode) hrest

end

/-! ### Bits and bounds -/

/-- Words stay below a power of two that all constants are below. -/
theorem runs_zero_lt (options : RunOptions) (codes : List (List UInt8)) {field : Field}
    (hfield : (options.layout.fields .loadConstant)[1]? = some field) :
    (zero.runs options codes).Every fun word => word.toNat < 2 ^ field.width := by
  refine runs_every ?_ options codes ?_ ?_
  · intro left right hleft hright
    rw [UInt32.toNat_or]
    exact Nat.or_lt_two_pow hleft hright
  · intro address word hget
    rw [eq_zero_of_get?_zero hget]
    exact Nat.two_pow_pos _
  · intro code _ constant hloads
    exact hloads.fits hfield

/-- Whatever is run, and however often, each bit that is set in the machine at the end was set in
    it at the start or is set in a constant of one of the streams, as the layout reads it.  So a
    machine that starts from zero never holds more than 24 bits in a word under the reference
    layout, and never more than 26 under the canonical one. -/
theorem bits_runs (layout : Layout) (verbose : Bool) (machine : Machine)
    (codes : List (List UInt8)) :
    (∀ k, (machine.runs ⟨layout, verbose⟩ codes).HasBit k →
        machine.HasBit k ∨ ∃ code ∈ codes, ∃ constant,
          CodeWord.Loads layout code constant ∧ constant.toNat.testBit k = true) ∧
      (∀ address word, (zero.runs ⟨.reference, verbose⟩ codes).get? address = some word →
        word.toNat < 2 ^ 24) ∧
      ∀ address word, (zero.runs ⟨.canonical, verbose⟩ codes).get? address = some word →
        word.toNat < 2 ^ 26 := by
  have hreference := runs_zero_lt ⟨.reference, verbose⟩ codes
    (show (Layout.reference.fields .loadConstant)[1]? = some ⟨'C', 11, 24⟩ from rfl)
  have hcanonical := runs_zero_lt ⟨.canonical, verbose⟩ codes
    (show (Layout.canonical.fields .loadConstant)[1]? = some ⟨'C', 11, 26⟩ from rfl)
  refine ⟨?_, hreference, hcanonical⟩
  rintro k ⟨address, word, hget, hbit⟩
  -- the property that is kept: where the bit is set, it has one of these origins
  refine runs_every (P := fun word => word.toNat.testBit k = true → _) ?_ ⟨layout, verbose⟩ codes
    ?_ ?_ address word hget hbit
  · intro left right hleft hright hjoined
    rw [UInt32.toNat_or, Nat.testBit_or, Bool.or_eq_true] at hjoined
    exact hjoined.elim hleft hright
  · intro source before hbefore hset
    exact .inl ⟨source, before, hbefore, hset⟩
  · intro code hcode constant hloads hset
    exact .inr ⟨code, hcode, constant, hloads, hset⟩

/-- A stream that loads 187, run twice on the zero machine: the bit found in the end is one of a
    constant, as there was none before. -/
theorem bits_runs_load :
    let code : List UInt8 := [0xC3, 0xDC, 0x05, 0x00, 0x00, 0x00]
    (zero.runs ⟨.reference, false⟩ [code, code]).get? (.register 4) = some 187 ∧
      (187 : Word).toNat < 2 ^ 24 ∧
      ∃ constant, CodeWord.Loads .reference code constant ∧
        constant.toNat.testBit 7 = true := by
  intro code
  have hget : (zero.runs ⟨.reference, false⟩ [code, code]).get? (.register 4) = some 187 := rfl
  obtain ⟨horigin, hreference, -⟩ := bits_runs .reference false zero [code, code]
  refine ⟨hget, hreference _ _ hget, ?_⟩
  rcases horigin 7 ⟨_, _, hget, by decide⟩ with
    ⟨address, word, hzero, hset⟩ | ⟨source, hmem, constant, hloads, hset⟩
  · -- the words of the zero machine have no bits
    rw [eq_zero_of_get?_zero hzero] at hset
    cases hset
  · have hcode : source = code := by simpa using hmem
    rw [hcode] at hloads
    exact ⟨constant, hloads, hset⟩

end Machine

end Quartet
