namespace Quartet.Text

/-!
# Ranges of code points

Properties of characters are given by tables of code points.  They are those of Unicode 17.

* `Ranges.contains` — membership of a character in a set given by ranges.
-/

/-- A set of code points as ranges in ascending order, both ends included. -/
abbrev Ranges := List (Nat × Nat)

/-- Whether a code point lies in one of the ranges.  The search ends at the first range past
    it. -/
def Ranges.holds (point : Nat) : Ranges → Bool
  | [] => false
  | (first, last) :: later => first ≤ point && (point ≤ last || holds point later)

/-- Whether a character lies in one of the ranges. -/
def Ranges.contains (ranges : Ranges) (c : Char) : Bool := ranges.holds c.toNat

end Quartet.Text
