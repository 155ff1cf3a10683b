import Quartet.Text.Decimal

namespace Quartet.Text

/-!
# Number texts

A number text is perhaps a sign, and then either decimal digits, perhaps with a point before,
among or after them and perhaps with an exponent, or a word for what is no finite number.

* `isNumber` — whether a text is one.
-/

/-- A text without the sign at its start, if it has one. -/
def withoutSign : List Char → List Char
  | '+' :: rest | '-' :: rest => rest
  | chars => chars

/-- Whether a text is the exponent of a number, or empty. -/
def isExponent : List Char → Bool
  | [] => true
  | mark :: rest =>
    let digits := withoutSign rest
    mark.toLower == 'e' && !digits.isEmpty && digits.all Char.isDigit

/-- Whether a text is a number without a sign, written with digits. -/
def isPositional (chars : List Char) : Bool :=
  let whole := chars.takeWhile Char.isDigit
  match chars.drop whole.length with
  | '.' :: rest =>
    let fraction := rest.takeWhile Char.isDigit
    !(whole.isEmpty && fraction.isEmpty) && isExponent (rest.drop fraction.length)
  | rest => !whole.isEmpty && isExponent rest

/-- The words for what is no finite number, in letters of either case. -/
def nonFiniteWords : List String := ["inf", "infinity", "nan"]

/-- Whether a text is a number. -/
def isNumber (chars : List Char) : Bool :=
  let size := withoutSign chars
  isPositional size || nonFiniteWords.contains (String.ofList (size.map Char.toLower))

end Quartet.Text
