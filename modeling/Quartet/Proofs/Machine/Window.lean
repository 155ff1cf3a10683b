import Quartet.Machine.Window
import Quartet.Proofs.Report.Faithful
import Mathlib.Data.List.Sort

namespace Quartet

/-!
# Windows of memory

A window names its cells by an interval that may reach past the end of memory.  The range of the
addresses that exist is found in 64 bit numbers, of which the largest has no number after it; it
is the range that the interval and the size of the memory ask for all the same.

* `MemoryWindow.wordRange`, `MemoryWindow.range_toNat` — the range in 64 bit numbers.
* `Machine.mem_window_iff`, `Machine.pairwise_window` — the cells that a window shows.
* `Machine.Shows`, `Machine.memory_eq_iff` — the lists that show a window, of which there is one.
* `Machine.window_interval` — ranges, windows and their reports.
-/

namespace MemoryWindow

/-! ### Ranges in 64 bit numbers -/

/-- The number after a 64 bit number; the largest one stands for itself. -/
def wordAfter (n : UInt64) : UInt64 := (Address.indexSum? n 1).getD n

/-- The range of a window, found in 64 bit numbers. -/
def wordRange (first last size : UInt64) : UInt64 × UInt64 :=
  let stop := min (wordAfter last) size
  (min first stop, stop)

theorem toNat_wordAfter (n : UInt64) :
    (wordAfter n).toNat = min (n.toNat + 1) (UInt64.size - 1) := by
  have hone : (1 : UInt64).toNat = 1 := rfl
  have hlt := n.toNat_lt_size
  unfold wordAfter Address.indexSum?
  rw [hone]
  split
  case isTrue h =>
    rw [Option.getD_some, UInt64.toNat_add, hone, Nat.mod_eq_of_lt h]
    omega
  case isFalse h =>
    rw [Option.getD_none]
    omega

theorem toNat_min (n m : UInt64) : (min n m).toNat = min n.toNat m.toNat := by
  show (if n ≤ m then n else m).toNat = _
  split
  case isTrue h =>
    have := UInt64.le_iff_toNat_le.mp h
    omega
  case isFalse h =>
    have := mt UInt64.le_iff_toNat_le.mpr h
    omega

/-- No size is so large that the end of the range is lost. -/
theorem range_toNat (first last size : UInt64) :
    let range := wordRange first last size
    MemoryWindow.range ⟨first.toNat, last.toNat⟩ size.toNat = (range.1.toNat, range.2.toNat) := by
  have hsize := size.toNat_lt_size
  have hstop : (min (wordAfter last) size).toNat = min (last.toNat + 1) size.toNat := by
    rw [toNat_min, toNat_wordAfter]
    omega
  simp only [wordRange, range, toNat_min, hstop]

end MemoryWindow

namespace Machine

/-! ### Cells of a window -/

/-- A window shows the cells between its ends, as far as there are any. -/
theorem mem_window_iff (machine : Machine) (window : MemoryWindow) (index : Nat) (value : Word) :
    (index, value) ∈ machine.window window ↔
      (window.first ≤ index ∧ index ≤ window.last) ∧ machine.memory[index]? = some value := by
  have hrange := window.mem_range_iff memorySize index
  have hle := (window.range_le memorySize).1
  have hmem : index ∈ List.range' (window.range memorySize).1
      ((window.range memorySize).2 - (window.range memorySize).1) ↔
      (window.first ≤ index ∧ index ≤ window.last) ∧ index < memorySize := by
    rw [List.mem_range'_1, ← hrange]
    omega
  -- a cell that holds a word is a cell of the memory, so the bound need not be asked for
  have hlt : machine.memory[index]? = some value → index < memorySize := fun h =>
    (Vector.getElem?_eq_some_iff.mp h).1
  simp only [Machine.window, List.mem_filterMap, Option.map_eq_some_iff, Prod.mk.injEq]
  constructor
  · rintro ⟨other, hother, word, hword, rfl, rfl⟩
    exact ⟨(hmem.mp hother).1, hword⟩
  · rintro ⟨hbetween, hvalue⟩
    exact ⟨index, hmem.mpr ⟨hbetween, hlt hvalue⟩, value, hvalue, rfl, rfl⟩

/-- A window shows its cells in ascending order. -/
theorem pairwise_window (machine : Machine) (window : MemoryWindow) :
    (machine.window window).Pairwise fun cell later => cell.1 < later.1 := by
  unfold Machine.window
  apply List.Pairwise.filterMap _ _ List.pairwise_lt_range'
  intro index later hlt cell hcell cell' hcell'
  obtain ⟨value, -, rfl⟩ := Option.map_eq_some_iff.mp hcell
  obtain ⟨value', -, rfl⟩ := Option.map_eq_some_iff.mp hcell'
  exact hlt

/-- Only one list has the cells of a window in ascending order. -/
theorem eq_window {machine : Machine} {window : MemoryWindow} {cells : List (Nat × Word)}
    (hascending : cells.Pairwise fun cell later => cell.1 < later.1)
    (hmem : ∀ index value, (index, value) ∈ cells ↔
      (window.first ≤ index ∧ index ≤ window.last) ∧ machine.memory[index]? = some value) :
    cells = machine.window window := by
  have hirrefl : Std.Irrefl fun cell later : Nat × Word => cell.1 < later.1 :=
    ⟨fun cell => Nat.lt_irrefl cell.1⟩
  have hantisymm : Std.Antisymm fun cell later : Nat × Word => cell.1 < later.1 :=
    ⟨fun cell later h h' => absurd h' (Nat.lt_asymm h)⟩
  exact List.Pairwise.eq_of_mem_iff hascending (machine.pairwise_window window) fun cell =>
    (hmem cell.1 cell.2).trans (machine.mem_window_iff window cell.1 cell.2).symm

/-- Whether a list shows the cells of a window: those between the ends of the window that there
    are, each once and in ascending order, with their contents. -/
structure Shows (machine : Machine) (window : MemoryWindow) (cells : List (Nat × Word)) : Prop where
  mem_indices_iff : ∀ index, index ∈ cells.map Prod.fst ↔
    (window.first ≤ index ∧ index ≤ window.last) ∧ index < 1024
  ascending : (cells.map Prod.fst).Pairwise (· < ·)
  contents : ∀ cell ∈ cells, machine.memory[cell.1]? = some cell.2

theorem shows_window (machine : Machine) (window : MemoryWindow) :
    machine.Shows window (machine.window window) := by
  refine ⟨fun index => ?_, ?_, fun cell hmem => ?_⟩
  · rw [List.mem_map]
    constructor
    · rintro ⟨⟨_, value⟩, hmem, rfl⟩
      obtain ⟨hbetween, hvalue⟩ := (mem_window_iff machine window _ value).mp hmem
      exact ⟨hbetween, (Vector.getElem?_eq_some_iff.mp hvalue).1⟩
    · rintro ⟨hbetween, hlt⟩
      exact ⟨(index, machine.memory[index]), (mem_window_iff machine window _ _).mpr
        ⟨hbetween, Vector.getElem?_eq_getElem hlt⟩, rfl⟩
  · exact List.pairwise_map.mpr (pairwise_window machine window)
  · exact ((mem_window_iff machine window cell.1 cell.2).mp hmem).2

/-- A list that shows a window is known from the addresses in it. -/
theorem Shows.eq_map {machine : Machine} {window : MemoryWindow} {cells : List (Nat × Word)}
    (h : machine.Shows window cells) :
    cells = (cells.map Prod.fst).map fun index => (index, (machine.memory[index]?).getD 0) := by
  have hcell : ∀ cell ∈ cells, (cell.1, (machine.memory[cell.1]?).getD 0) = cell := by
    intro cell hmem
    rw [h.contents cell hmem, Option.getD_some]
  calc cells = cells.map id := (List.map_id cells).symm
    _ = (cells.map Prod.fst).map _ := by
      rw [List.map_map]
      exact List.map_congr_left fun cell hmem => (hcell cell hmem).symm

/-- Only one list shows a window. -/
theorem Shows.unique {machine : Machine} {window : MemoryWindow} {cells others : List (Nat × Word)}
    (h : machine.Shows window cells) (h' : machine.Shows window others) : cells = others := by
  have hindices : cells.map Prod.fst = others.map Prod.fst :=
    List.Pairwise.eq_of_mem_iff h.ascending h'.ascending fun index =>
      (h.mem_indices_iff index).trans (h'.mem_indices_iff index).symm
  rw [h.eq_map, h'.eq_map, hindices]

/-- The report of a window is that of the one list that shows it. -/
theorem memory_eq_iff (machine : Machine) (window : MemoryWindow) (cells : List (Nat × Word)) :
    Report.memory cells = Report.memory (machine.window window) ↔ machine.Shows window cells := by
  rw [Report.memory_inj]
  constructor
  · rintro rfl
    exact machine.shows_window window
  · exact fun h => h.unique (machine.shows_window window)

/-- The range of a window lies within the memory, whatever its ends are, and holds the addresses
    between the ends that there are, also if it is found in 64 bit numbers.  These are what a
    machine shows of its memory, in ascending order and with their contents.  The report of it has
    two lines for each of them, and is that of no other list. -/
theorem window_interval (machine : Machine) (window : MemoryWindow) (size : Nat) :
    let range := window.range size
    (range.1 ≤ range.2 ∧ range.2 ≤ size) ∧
      (∀ index, range.1 ≤ index ∧ index < range.2 ↔
        (window.first ≤ index ∧ index ≤ window.last) ∧ index < size) ∧
      (∀ first last size : UInt64,
        let range := MemoryWindow.wordRange first last size
        MemoryWindow.range ⟨first.toNat, last.toNat⟩ size.toNat
          = (range.1.toNat, range.2.toNat)) ∧
      machine.Shows window (machine.window window) ∧
      Report.memory (machine.window window)
        = Report.ofLines (Report.memoryLines (machine.window window)) ∧
      ∀ cells, Report.memory cells = Report.memory (machine.window window) ↔
        machine.Shows window cells :=
  ⟨window.range_le size, window.mem_range_iff size, MemoryWindow.range_toNat,
    machine.shows_window window, Report.memory_eq_ofLines _, machine.memory_eq_iff window⟩

end Machine

end Quartet
