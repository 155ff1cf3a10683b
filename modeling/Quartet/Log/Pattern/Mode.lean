import Quartet.Text.Blank

namespace Quartet.Log.Pattern

/-!
# Modes of a pattern

Letters in a pattern switch modes on and off for the rest of the group they stand in.

* `Mode` — the modes that decide whether a pattern is well-formed.
* `Mode.ofFlags` — the modes after a list of switches.
* `Mode.skip` — a pattern without what its mode lets it hold for the reader's sake.
-/

/-- The modes that decide whether a pattern is well-formed. -/
structure Mode where
  /-- Letters match in either case. -/
  ignoresCase : Bool := false
  /-- The pattern is about characters and not about bytes. -/
  isUnicode : Bool := true
  /-- Blanks mean nothing, and a number sign starts a comment. -/
  isSpaced : Bool := false
deriving DecidableEq

namespace Mode

/-- The letters that switch modes; a hyphen makes those after it switch off. -/
def flagLetters : List Char := ['i', 'm', 's', 'U', 'u', 'R', 'x', '-']

/-- The state of a switch after a list of them. -/
def switched (flags : List Char) (letter : Char) (old : Bool) : Bool :=
  let on := flags.takeWhile (· ≠ '-')
  if on.contains letter then true else old && !flags.contains letter

/-- The modes after a list of switches. -/
def ofFlags (mode : Mode) (flags : List Char) : Mode where
  ignoresCase := switched flags 'i' mode.ignoresCase
  isUnicode := switched flags 'u' mode.isUnicode
  isSpaced := switched flags 'x' mode.isSpaced

/-- A text from its first character that means something; `inComment` is set where the text
    stands in a comment, which ends with its line. -/
def meaningful (inComment : Bool) : List Char → List Char
  | [] => []
  | c :: rest =>
    if inComment then meaningful (c ≠ '\n') rest
    else if c = '#' then meaningful true rest
    else if Text.isBlank c then meaningful false rest
    else c :: rest

/-- A pattern from its next character that means something. -/
def skip (mode : Mode) (chars : List Char) : List Char :=
  if mode.isSpaced then meaningful false chars else chars

theorem length_meaningful_le (inComment : Bool) (chars : List Char) :
    (meaningful inComment chars).length ≤ chars.length := by
  fun_induction meaningful inComment chars with
  | case1 => exact Nat.le_refl _
  | case2 c rest ih => exact Nat.le_succ_of_le ih
  | case3 _ rest _ ih => exact Nat.le_succ_of_le ih
  | case4 _ c rest _ _ _ ih => exact Nat.le_succ_of_le ih
  | case5 => exact Nat.le_refl _

theorem length_skip_le (mode : Mode) (chars : List Char) :
    (mode.skip chars).length ≤ chars.length := by
  unfold skip
  split
  · exact length_meaningful_le false chars
  · exact Nat.le_refl _

/-- The character behind the first of a pattern, as far as it decides whether the first is a
    hyphen between the ends of a range.  The sign that starts a comment is passed over, the
    comment is not. -/
def peek? (mode : Mode) (chars : List Char) : Option Char :=
  if mode.isSpaced then
    match chars.dropWhile Text.isBlank with
    | '#' :: rest => (rest.dropWhile Text.isBlank).head?
    | rest => rest.head?
  else chars.head?

end Mode

end Quartet.Log.Pattern
