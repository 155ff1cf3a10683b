import Quartet.Proofs.Machine.Bounds

namespace Quartet

/-!
# What an instruction reads and writes

An instruction that succeeds writes one word at one address.  The word is made from words that it
reads, and it reads and writes only addresses that it touches.

* `Machine.Writes` — the address that an instruction writes to, and the word.
* `Machine.execute_eq_ok_iff` — the instructions that succeed, and the machine after them.
* `Machine.get?_of_execute` — an address that is not touched keeps its word.
* `Machine.AgreeOn`, `Machine.execute_alike` — machines that hold the same words where an
  instruction touches them cannot be told apart by it.
-/

namespace Machine

/-! ### The word that is written -/

/-- The address that an instruction writes to and the word it writes there, if the machine has
    all that the instruction reads. -/
inductive Writes (machine : Machine) : Instruction → Address → Word → Prop
  | loadConstant {destination value : Word} :
    Writes machine (.loadConstant destination value) (registerAt destination) value
  | memoryRead {base destination pointer value : Word}
    (hpointer : machine.get? (registerAt base) = some pointer)
    (hvalue : machine.get? (cellAt pointer) = some value) :
    Writes machine (.memoryRead base destination) (registerAt destination) value
  | memoryWrite {source offset base value pointer : Word}
    (hvalue : machine.get? (registerAt source) = some value)
    (hpointer : machine.get? (registerAt base) = some pointer) :
    Writes machine (.memoryWrite source offset base)
      (.memory (pointer.toUInt64 + offset.toUInt64)) value
  | bitwiseOr {destination address source left right : Word}
    (hleft : machine.get? (registerAt source) = some left)
    (hright : machine.get? (cellAt address) = some right) :
    Writes machine (.bitwiseOr destination address source) (registerAt destination)
      (left ||| right)

/-- What can be written can be read. -/
theorem exists_get?_of_set? {machine after : Machine} {address : Address} {value : Word}
    (h : machine.set? address value = some after) : ∃ word, machine.get? address = some word := by
  cases hget : machine.get? address with
  | some word => exact ⟨word, rfl⟩
  | none =>
    rw [(set?_eq_none_iff machine address value).mpr hget] at h
    cases h

/-- An instruction succeeds exactly if the machine has all that it reads and the address it
    writes to, and the word written there is all that it changes. -/
theorem execute_eq_ok_iff (machine after : Machine) (instruction : Instruction) :
    machine.execute instruction = .ok after ↔
      ∃ address value, machine.Writes instruction address value ∧
        machine.set? address value = some after := by
  constructor
  · intro h
    cases instruction with
    | loadConstant destination value =>
      exact ⟨_, _, .loadConstant, (store_eq_ok_iff _ _ _ _ _).mp h⟩
    | memoryRead base destination =>
      simp only [execute, steps, bind_eq_ok_iff, load_eq_ok_iff, store_eq_ok_iff] at h
      obtain ⟨_, -, pointer, hpointer, value, hvalue, hafter⟩ := h
      exact ⟨_, _, .memoryRead hpointer hvalue, hafter⟩
    | memoryWrite source offset base =>
      simp only [execute, steps, bind_eq_ok_iff, load_eq_ok_iff, add?_cellAt, store_eq_ok_iff] at h
      obtain ⟨value, hvalue, pointer, hpointer, hafter⟩ := h
      exact ⟨_, _, .memoryWrite hvalue hpointer, hafter⟩
    | bitwiseOr destination address source =>
      simp only [execute, steps, bind_eq_ok_iff, load_eq_ok_iff, store_eq_ok_iff] at h
      obtain ⟨_, -, left, hleft, right, hright, hafter⟩ := h
      exact ⟨_, _, .bitwiseOr hleft hright, hafter⟩
  · rintro ⟨address, value, hwrites, hafter⟩
    -- the destination that is checked first is the address written last
    obtain ⟨word, hword⟩ := exists_get?_of_set? hafter
    cases hwrites with
    | loadConstant => exact (store_eq_ok_iff _ _ _ _ _).mpr hafter
    | memoryRead hpointer hvalue =>
      simp only [execute, steps, bind_eq_ok_iff, load_eq_ok_iff, store_eq_ok_iff]
      exact ⟨word, hword, _, hpointer, _, hvalue, hafter⟩
    | memoryWrite hvalue hpointer =>
      simp only [execute, steps, bind_eq_ok_iff, load_eq_ok_iff, add?_cellAt, store_eq_ok_iff]
      exact ⟨_, hvalue, _, hpointer, hafter⟩
    | bitwiseOr hleft hright =>
      simp only [execute, steps, bind_eq_ok_iff, load_eq_ok_iff, store_eq_ok_iff]
      exact ⟨word, hword, _, hleft, _, hright, hafter⟩

/-- The address that is written is touched. -/
theorem Writes.touches {machine : Machine} {instruction : Instruction} {address : Address}
    {value : Word} (h : machine.Writes instruction address value) :
    instruction.Touches address := by
  cases h with
  | loadConstant => exact touches_registerAt (.head _)
  | memoryRead => exact touches_registerAt (.tail _ (.head _))
  | memoryWrite => exact touches_memory nofun
  | bitwiseOr => exact touches_registerAt (.head _)

/-- An address that is not touched keeps its word. -/
theorem get?_of_execute {machine after : Machine} {instruction : Instruction} {address : Address}
    (h : machine.execute instruction = .ok after) (huntouched : ¬ instruction.Touches address) :
    after.get? address = machine.get? address := by
  obtain ⟨target, value, hwrites, hafter⟩ := (execute_eq_ok_iff _ _ _).mp h
  have hne : address ≠ target := fun heq => huntouched (heq ▸ hwrites.touches)
  exact get?_of_set?_ne hafter hne

/-! ### Machines that agree -/

/-- Whether two machines hold the same words at some of the addresses. -/
def AgreeOn (places : Address → Prop) (first second : Machine) : Prop :=
  ∀ address, places address → first.get? address = second.get? address

/-- Outcomes that are the same error, or machines that agree at some of the addresses. -/
inductive Alike (places : Address → Prop) :
    Except OutOfBounds Machine → Except OutOfBounds Machine → Prop
  | ok {first second : Machine} (h : first.AgreeOn places second) :
    Alike places (.ok first) (.ok second)
  | error (error : OutOfBounds) : Alike places (.error error) (.error error)

section

variable {places : Address → Prop} {first second : Machine} {instruction : Instruction}

theorem load_congr {address : Address} (h : first.AgreeOn places second)
    (hplace : places address) :
    first.load instruction address = second.load instruction address := by
  rw [load, load, h address hplace]

/-- The same word written to machines that agree leaves them so. -/
theorem store_alike {address : Address} (value : Word) (h : first.AgreeOn places second)
    (hplace : places address) :
    Alike places (first.store instruction address value)
      (second.store instruction address value) := by
  -- both machines have the address, or neither does
  cases hfirst : first.store instruction address value with
  | error error =>
    obtain ⟨habsent, rfl⟩ := (store_eq_error_iff _ _ _ _ _).mp hfirst
    have hsecond := (store_eq_error_iff second instruction address value _).mpr
      ⟨(h address hplace).symm.trans habsent, rfl⟩
    rw [hsecond]
    exact .error _
  | ok after =>
    have hset := (store_eq_ok_iff _ _ _ _ _).mp hfirst
    cases hsecond : second.store instruction address value with
    | error error =>
      obtain ⟨habsent, -⟩ := (store_eq_error_iff _ _ _ _ _).mp hsecond
      obtain ⟨word, hword⟩ := exists_get?_of_set? hset
      rw [h address hplace, habsent] at hword
      cases hword
    | ok after' =>
      have hset' := (store_eq_ok_iff _ _ _ _ _).mp hsecond
      refine .ok fun other hother => ?_
      by_cases heq : other = address
      · rw [heq, get?_of_set? hset, get?_of_set? hset']
      · rw [get?_of_set?_ne hset heq, get?_of_set?_ne hset' heq, h other hother]

/-- What is done alike with the same word is alike. -/
theorem bind_alike {word word' : Except OutOfBounds Word}
    {next next' : Word → Except OutOfBounds Machine} (h : word = word')
    (hnext : ∀ value, Alike places (next value) (next' value)) :
    Alike places (word >>= next) (word' >>= next') := by
  subst h
  cases word with
  | error error => exact .error error
  | ok value => exact hnext value

/-- An instruction has the same outcome on machines that agree wherever it touches them. -/
theorem execute_alike (h : first.AgreeOn places second)
    (htouches : ∀ address, instruction.Touches address → places address) :
    Alike places (first.execute instruction) (second.execute instruction) := by
  have hregister : ∀ number ∈ instruction.registers, places (registerAt number) :=
    fun _ hmem => htouches _ (touches_registerAt hmem)
  -- the same words are loaded from both machines, so they go the same way after each load
  cases instruction with
  | loadConstant destination value => exact store_alike value h (hregister _ (.head _))
  | memoryRead base destination =>
    have hcell : ∀ index, places (.memory index) :=
      fun _ => htouches _ (touches_memory nofun)
    refine bind_alike (load_congr h (hregister _ (.tail _ (.head _)))) fun _ => ?_
    refine bind_alike (load_congr h (hregister _ (.head _))) fun pointer => ?_
    refine bind_alike (load_congr h (hcell _)) fun value => ?_
    exact store_alike value h (hregister _ (.tail _ (.head _)))
  | memoryWrite source offset base =>
    have hcell : ∀ index, places (.memory index) :=
      fun _ => htouches _ (touches_memory nofun)
    refine bind_alike (load_congr h (hregister _ (.head _))) fun value => ?_
    refine bind_alike (load_congr h (hregister _ (.tail _ (.head _)))) fun pointer => ?_
    rw [add?_cellAt]
    exact store_alike value h (hcell _)
  | bitwiseOr destination address source =>
    have hcell : ∀ index, places (.memory index) :=
      fun _ => htouches _ (touches_memory nofun)
    refine bind_alike (load_congr h (hregister _ (.head _))) fun _ => ?_
    refine bind_alike (load_congr h (hregister _ (.tail _ (.head _)))) fun left => ?_
    refine bind_alike (load_congr h (hcell _)) fun right => ?_
    exact store_alike _ h (hregister _ (.head _))

end

end Machine

end Quartet
