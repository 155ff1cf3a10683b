import Quartet.Machine.State

namespace Quartet

/-!
# Memory windows

A window is an interval of memory addresses, both ends included.  It may reach past the end
of memory or hold nothing; what counts are the addresses that exist.

* `MemoryWindow.range` — the half-open range of the addresses below a given size.
* `Machine.window` — those cells of a machine, with their contents.
-/

/-- The addresses from `first` to `last`, both included. -/
structure MemoryWindow where
  first : Nat
  last : Nat
deriving DecidableEq

namespace MemoryWindow

/-- The window that shows all of memory. -/
def whole : MemoryWindow := ⟨0, memorySize - 1⟩

/-- The addresses of the window below `size`, as the first one and the one after the last. -/
def range (window : MemoryWindow) (size : Nat) : Nat × Nat :=
  let stop := min (window.last + 1) size
  (min window.first stop, stop)

theorem range_le (window : MemoryWindow) (size : Nat) :
    (window.range size).1 ≤ (window.range size).2 ∧ (window.range size).2 ≤ size := by
  simp only [range]
  omega

/-- An address lies in the range exactly if it lies in the window and below `size`. -/
theorem mem_range_iff (window : MemoryWindow) (size index : Nat) :
    ((window.range size).1 ≤ index ∧ index < (window.range size).2) ↔
      (window.first ≤ index ∧ index ≤ window.last) ∧ index < size := by
  simp only [range]
  omega

end MemoryWindow

/-- The cells of a window, in ascending order, with their contents. -/
def Machine.window (machine : Machine) (window : MemoryWindow) : List (Nat × Word) :=
  let (start, stop) := window.range memorySize
  (List.range' start (stop - start)).filterMap fun index =>
    machine.memory[index]?.map fun value => (index, value)

end Quartet
