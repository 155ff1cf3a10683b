import Quartet.Log.Pattern.Atom
import Quartet.Log.Pattern.Row

namespace Quartet.Log.Pattern

/-!
# Classes of characters

A class stands between brackets.  It lists characters, ranges of characters, named sets such
as `[:alpha:]` and further classes; two such lists may be joined by `&&`, `--` or `~~`.

* `readClass?` — the depth of a class, and what follows it.
-/

/-- A class that is being read. -/
structure OpenClass where
  /-- What has been listed since the last joining sign. -/
  items : Row := {}
  /-- The depth of what stands before the last joining sign, if there is one. -/
  joined : Option Nat := none

/-- The depth of the content of a class. -/
def OpenClass.depth (content : OpenClass) : Nat :=
  match content.joined with
  | none => content.items.depth
  | some left => max left content.items.depth + 1

/-- The class with another item of a depth. -/
def OpenClass.add (content : OpenClass) (depth : Nat) : OpenClass :=
  { content with items := content.items.add depth }

/-- The class after a joining sign. -/
def OpenClass.join (content : OpenClass) : OpenClass := { joined := some content.depth }

/-- The sets with names. -/
def setNames : List String :=
  ["alnum", "alpha", "ascii", "blank", "cntrl", "digit", "graph", "lower", "print", "punct",
    "space", "upper", "word", "xdigit"]

/-- A named set behind its opening bracket: whether it is negated, and what follows it. -/
def namedSet? : List Char → Option (Bool × List Char)
  | ':' :: chars =>
    let isNegated := chars.head? = some '^'
    let chars := if isNegated then chars.tail else chars
    let name := chars.takeWhile (· ≠ ':')
    match chars.drop name.length with
    | ':' :: ']' :: rest =>
      if setNames.contains (String.ofList name) then some (isNegated, rest) else none
    | _ => none
  | _ => none

/-- Whether a class, or a set in one, may be negated.  Over bytes the negation would match
    parts of characters. -/
def Mode.admitsSet (mode : Mode) (isNegated : Bool) : Bool :=
  if mode.isUnicode then !mode.ignoresCase else !isNegated

/-- The hyphens at the start of a class, each of which stands for itself, and what follows. -/
def leadingHyphens (mode : Mode) : List Char → Nat × List Char
  | '-' :: rest =>
    let (count, rest) := leadingHyphens mode (mode.skip rest)
    (count + 1, rest)
  | chars => (0, chars)
termination_by chars => chars.length
decreasing_by exact Nat.lt_succ_of_le (mode.length_skip_le rest)

/-- The start of a class behind its opening bracket: its first characters are taken for
    themselves if they are hyphens, or else a closing bracket. -/
def openClass? (mode : Mode) (chars : List Char) : Option (OpenClass × List Char) :=
  let chars := mode.skip chars
  let isNegated := chars.head? = some '^'
  let chars := if isNegated then mode.skip chars.tail else chars
  if isNegated && !mode.isUnicode then none
  else
    let (count, chars) := leadingHyphens mode chars
    let (count, chars) :=
      match count, chars with
      | 0, ']' :: rest => (1, mode.skip rest)
      | count, chars => (count, chars)
    if count = 0 || mode.admitsInClass (.literal '-' false) then some (⟨⟨count, 0⟩, none⟩, chars)
    else none

/-- An atom in a class, and what follows it. -/
def classAtom? (mode : Mode) : List Char → Option (Atom × List Char)
  | [] => none
  | '\\' :: rest => Atom.ofEscape? mode rest
  | c :: rest => some (.literal c false, rest)

/-- What follows a character or a range of characters in a class.  A hyphen makes a range
    unless the class or a joining sign comes next. -/
def afterRange? (mode : Mode) (chars : List Char) : Option (List Char) := do
  let (first, rest) ← classAtom? mode chars
  if !mode.admitsInClass first then none
  let rest := mode.skip rest
  match rest with
  | '-' :: more =>
    if mode.peek? more = some ']' || mode.peek? more = some '-' then return rest
    let (last, rest) ← classAtom? mode (mode.skip more)
    if !mode.admitsInClass last then none
    match first, last with
    | .literal low _, .literal high _ => if low ≤ high then return rest else none
    | _, _ => none
  | _ => return rest

/-- Reads a class to its end, where `outer` are the classes it lies in. -/
def readClass? (mode : Mode) (content : OpenClass) (outer : List OpenClass) (chars : List Char) :
    Option (Nat × List Char) :=
  match mode.skip chars with
  | [] => none
  | ']' :: rest =>
    match outer with
    | [] => some (content.depth + 1, rest)
    | holder :: outer =>
      if rest.length < chars.length then
        readClass? mode (holder.add (content.depth + 1)) outer rest
      else none
  | '[' :: rest =>
    match namedSet? rest with
    | some (isNegated, rest) =>
      if mode.admitsSet isNegated && rest.length < chars.length then
        readClass? mode (content.add 0) outer rest
      else none
    | none =>
      match openClass? mode rest with
      | some (inner, rest) =>
        if rest.length < chars.length then readClass? mode inner (content :: outer) rest else none
      | none => none
  | '&' :: '&' :: rest | '-' :: '-' :: rest | '~' :: '~' :: rest =>
    if rest.length < chars.length then readClass? mode content.join outer rest else none
  | chars' =>
    match afterRange? mode chars' with
    | some rest =>
      if rest.length < chars.length then readClass? mode (content.add 0) outer rest else none
    | none => none
termination_by chars.length
decreasing_by all_goals simp_all

end Quartet.Log.Pattern
