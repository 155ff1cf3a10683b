import Quartet.Machine.State
import Quartet.Text.Grid

namespace Quartet

/-!
# The state table

A machine is shown as two tables side by side: all registers, and the first cells of memory.
An arrow points at the word written last, if it is one of those shown.

* `Machine.table` — the picture of a machine.
-/

open Text (Cell Grid)

/-- The number of memory cells that the table shows. -/
def shownCells : Nat := 16

namespace Machine

/-- The row of one word: its address, with an arrow if it is `marked`, and its content. -/
def wordRow (marked : Bool) (letter : Char) (index : Nat) (value : Word) : List Cell :=
  let place := s!"{letter}[{index}] ="
  [Cell.ofTextRight (if marked then "* --> " ++ place else place), Cell.ofText s!"{value}"]

/-- The table of a list of words; `marked?` is the index of the one the arrow points at. -/
def storeGrid (letter : Char) (marked? : Option Nat) (values : List Word) : Grid where
  titles := [Cell.ofTextRight "Address", Cell.ofText "Contents"]
  rows := values.zipIdx.map fun (value, index) => wordRow (marked? == some index) letter index value

/-- The index of the register written last, if it was a register. -/
def markedRegister? (machine : Machine) : Option Nat :=
  match machine.lastWrite with
  | some (.register index) => some index.toNat
  | _ => none

/-- The index of the memory cell written last, if it was a memory cell. -/
def markedCell? (machine : Machine) : Option Nat :=
  match machine.lastWrite with
  | some (.memory index) => some index.toNat
  | _ => none

/-- The two tables side by side. -/
def grid (machine : Machine) : Grid where
  titles := [Cell.ofText "Registers", Cell.ofText "Memory"]
  rows :=
    let registers := storeGrid 'R' machine.markedRegister? machine.registers.toList
    let cells := storeGrid 'M' machine.markedCell? (machine.memory.toList.take shownCells)
    [[⟨registers.lines, .left⟩, ⟨cells.lines, .left⟩]]

/-- The picture of a machine. -/
def table (machine : Machine) : String := machine.grid.text

end Machine

end Quartet
