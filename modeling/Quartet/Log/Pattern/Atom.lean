import Quartet.Log.Pattern.Mode
import Quartet.Text.Decimal

namespace Quartet.Log.Pattern

/-!
# Atoms of a pattern

The smallest parts of a pattern stand for one character or for a condition on the place where
they are met.  A backslash starts those that a single character cannot express.

* `Atom` — such a part.
* `Atom.ofEscape?` — the part that stands behind a backslash.
* `Mode.admits`, `Mode.admitsInClass` — where a part may stand.
-/

/-- A smallest part of a pattern. -/
inductive Atom where
  /-- A character; a byte if it is given by two hexadecimal digits. -/
  | literal (c : Char) (isByte : Bool)
  /-- Any character. -/
  | any
  /-- A class of characters with a letter for its name. -/
  | shorthand (isNegated : Bool)
  /-- An end of the text or of a line. -/
  | boundary
  /-- An end of a word. -/
  | wordBoundary
deriving DecidableEq

/-- The first digits of a hexadecimal number, of a given count, and what follows them. -/
def hexDigits? (mode : Mode) : Nat → List Char → Option (List Char × List Char)
  | 0, chars => some ([], chars)
  | count + 1, chars =>
    match mode.skip chars with
    | [] => none
    | c :: rest =>
      if c.isDigit || ('a' ≤ c.toLower && c.toLower ≤ 'f') then
        (hexDigits? mode count rest).map fun (digits, rest) => (c :: digits, rest)
      else none

/-- The value of a hexadecimal digit. -/
def hexValue (c : Char) : Nat :=
  if c.isDigit then Text.digitValue c else c.toLower.toNat - 'a'.toNat + 10

namespace Atom

/-- A character given by its code point in a number of hexadecimal digits. -/
def ofCodePoint? (mode : Mode) (digitCount : Nat) (chars : List Char) :
    Option (Atom × List Char) := do
  let (digits, rest) ← hexDigits? mode digitCount chars
  let point := digits.foldl (fun value digit => 16 * value + hexValue digit) 0
  if point.isValidChar then return (literal (Char.ofNat point) (digitCount == 2), rest)
  else none

/-- The character that a letter stands for behind a backslash. -/
def control? : Char → Option Char
  | 'a' => some '\x07'
  | 'f' => some '\x0c'
  | 't' => some '\t'
  | 'n' => some '\n'
  | 'r' => some '\r'
  | 'v' => some '\x0b'
  | _ => none

/-- Whether a character may stand for itself behind a backslash: those of ASCII that are
    neither letters nor digits nor have a meaning there. -/
def isPlainEscape (c : Char) : Bool :=
  c.toNat < 0x80 && !c.isAlphanum && c ≠ '<' && c ≠ '>'

/-- The part that stands behind a backslash, and what follows it. -/
def ofEscape? (mode : Mode) : List Char → Option (Atom × List Char)
  | [] => none
  | c :: rest =>
    match control? c with
    | some meant => some (literal meant false, rest)
    | none =>
      if c = 'x' then ofCodePoint? mode 2 rest
      else if c = 'u' then ofCodePoint? mode 4 rest
      else if c = 'U' then ofCodePoint? mode 8 rest
      else if ['d', 's', 'w'].contains c then some (shorthand false, rest)
      else if ['D', 'S', 'W'].contains c then some (shorthand true, rest)
      else if ['A', 'z'].contains c then some (boundary, rest)
      else if ['b', 'B', '<', '>'].contains c then some (wordBoundary, rest)
      else if isPlainEscape c then some (literal c false, rest)
      else none

end Atom

namespace Mode

/-- Whether an atom may stand outside a class.  Case and the classes with a letter for their
    name are known for ASCII alone, so they need a pattern about bytes; such a pattern may not
    match a part of a character. -/
def admits (mode : Mode) : Atom → Bool
  | .literal c isByte => if mode.isUnicode then !mode.ignoresCase else !(isByte && 0x80 ≤ c.toNat)
  | .any => mode.isUnicode
  | .shorthand isNegated => !mode.isUnicode && !isNegated
  | .boundary => true
  | .wordBoundary => !mode.isUnicode

/-- Whether an atom may stand in a class. -/
def admitsInClass (mode : Mode) : Atom → Bool
  | .literal c _ => if mode.isUnicode then !mode.ignoresCase else c.toNat < 0x80
  | .shorthand isNegated => !mode.isUnicode && !isNegated
  | .any | .boundary | .wordBoundary => false

end Mode

end Quartet.Log.Pattern
