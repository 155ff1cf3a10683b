import Quartet.Instruction

namespace Quartet

/-!
# Addresses

An address names a register or a memory cell by its index.  Whether the machine has such a
register or cell is decided where the address is used.

* `Address.add?` — the address some cells further on.
* `Address.text` — its form in messages.
* `Address.le` — registers before memory, then by index.
-/

/-- The place of a word in the machine. -/
inductive Address where
  | register (index : UInt64)
  | memory (index : UInt64)
deriving DecidableEq

namespace Address

/-- The index of an address in its store. -/
def index : Address → UInt64
  | register index | memory index => index

/-- The sum of two indices, if it is one. -/
def indexSum? (index offset : UInt64) : Option UInt64 :=
  if index.toNat + offset.toNat < UInt64.size then some (index + offset) else none

/-- The address `offset` places further on in the same store. -/
def add? (address : Address) (offset : UInt64) : Option Address :=
  match address with
  | register index => (indexSum? index offset).map register
  | memory index => (indexSum? index offset).map memory

/-- The form of an address in messages. -/
def text : Address → String
  | register index => s!"R[{index}]"
  | memory index => s!"M[{index}]"

/-- The order of addresses: registers come before memory cells, and each by index. -/
def le : Address → Address → Bool
  | register i, register j => i ≤ j
  | register _, memory _ => true
  | memory _, register _ => false
  | memory i, memory j => i ≤ j

/-- A list of addresses in their order. -/
def sort (addresses : List Address) : List Address := addresses.mergeSort le

end Address

end Quartet
