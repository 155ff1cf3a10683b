namespace Quartet.Log.Pattern

/-!
# Depth of a pattern

How deep the parts of a pattern lie in each other is limited.  Parts in a row, be it one after
the other or as alternatives, lie one deeper than the row; a row of one part is that part.

* `Row` — the number of parts in a row, and the depth of the deepest.
* `depthLimit` — the depth that a pattern may have.
-/

/-- Parts in a row. -/
structure Row where
  count : Nat := 0
  deepest : Nat := 0
deriving DecidableEq

/-- The row with another part at its end. -/
def Row.add (row : Row) (depth : Nat) : Row := ⟨row.count + 1, max row.deepest depth⟩

/-- The depth of a row. -/
def Row.depth (row : Row) : Nat := if row.count ≤ 1 then row.deepest else row.deepest + 1

/-- The depth that a pattern may have. -/
def depthLimit : Nat := 250

end Quartet.Log.Pattern
