import Quartet.Text.Ranges

namespace Quartet.Text

/-!
# Blank characters

Tokens are separated by the characters with the Unicode property `White_Space`, and lines by
the line feed alone.

* `isBlank` — membership in `White_Space`.
* `pieces`, `words` — a text cut at separators, and its runs of characters that are none.
-/

/-- The ranges of code points with the property `White_Space`. -/
def blankRanges : Ranges :=
  [(0x9, 0xd), (0x20, 0x20), (0x85, 0x85), (0xa0, 0xa0), (0x1680, 0x1680), (0x2000, 0x200a),
    (0x2028, 0x2029), (0x202f, 0x202f), (0x205f, 0x205f), (0x3000, 0x3000)]

/-- Whether a character separates tokens. -/
def isBlank (c : Char) : Bool := blankRanges.contains c

/-- Cuts a list at every separator; there is one more piece than there are separators. -/
def pieces {α : Type} (isSeparator : α → Bool) (items : List α) : List (List α) :=
  items.foldr
    (fun item later =>
      if isSeparator item then [] :: later
      else
        match later with
        | [] => [[item]]
        | piece :: others => (item :: piece) :: others)
    [[]]

/-- The maximal runs of a list that hold no separator. -/
def words {α : Type} (isSeparator : α → Bool) (items : List α) : List (List α) :=
  (pieces isSeparator items).filter (!·.isEmpty)

end Quartet.Text
