import Quartet.Text.Blank

namespace Quartet

/-!
# Tokens

Assembly text is a sequence of tokens: maximal runs of characters that are not blank.  A
token remembers the line it stands on.

* `Token.ofText` — the tokens of a text, with lines counted from 1.
-/

/-- A run of characters without a blank, and its line. -/
structure Token where
  text : String
  line : Nat
deriving DecidableEq

namespace Token

/-- The tokens of one line. -/
def ofLine (line : Nat) (chars : List Char) : List Token :=
  (Text.words Text.isBlank chars).map fun word => ⟨String.ofList word, line⟩

/-- The tokens of a text, in order.  Only the line feed ends a line; the other characters
    that may break one are blanks within it. -/
def ofText (text : String) : List Token :=
  ((Text.pieces (· == '\n') text.toList).zipIdx 1).flatMap fun (chars, line) => ofLine line chars

end Token

end Quartet
