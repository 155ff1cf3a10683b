namespace Quartet.Text

/-!
# Decimal numbers

* `decimal` — the number that a list of decimal digits stands for.
* `unsigned?` — a whole text read as a 64 bit number.
-/

/-- The value of a decimal digit. -/
def digitValue (c : Char) : Nat := c.toNat - '0'.toNat

/-- The number that a list of decimal digits stands for. -/
def decimal (digits : List Char) : Nat :=
  digits.foldl (fun value digit => 10 * value + digitValue digit) 0

/-- A text that is nothing but ASCII digits, at least one, perhaps after a plus sign, and
    whose value fits in 64 bits. -/
def unsigned? (text : String) : Option Nat :=
  let digits :=
    match text.toList with
    | '+' :: digits => digits
    | digits => digits
  if !digits.isEmpty && digits.all Char.isDigit && decimal digits < UInt64.size then
    some (decimal digits)
  else none

end Quartet.Text
