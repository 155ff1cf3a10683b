import Quartet.Log.Pattern.Class
import Quartet.Text.Alphanumeric

namespace Quartet.Log.Pattern

/-!
# Patterns

A filter may ask that a detail's value match a pattern, a regular expression.  No detail that
events have is ever compared with one, since that is done for the details of spans alone, and
there are no spans; but a filter with an ill-formed pattern is ill-formed itself.

A brace cannot stand for a counted repetition here: a pattern ends at the first closing brace.

* `Group` — a group of a pattern, as far as it has been read.
* `isWellFormed` — whether a text is a pattern.
-/

/-- A group that is being read; the whole pattern is one too. -/
structure Group where
  /-- The alternatives that are complete. -/
  branches : Row := {}
  /-- The parts of the alternative that is being read. -/
  items : Row := {}
  /-- The depth of the last part, if it is one that can be repeated. -/
  last : Option Nat := none

namespace Group

/-- The group with another part of a depth. -/
def add (group : Group) (depth : Nat) : Group :=
  { group with items := group.items.add depth, last := some depth }

/-- The group with switches as another part. -/
def addSwitches (group : Group) : Group :=
  { group with items := group.items.add 0, last := none }

/-- The group with its last part repeated. -/
def repeatLast? (group : Group) : Option Group :=
  group.last.map fun depth =>
    { group with
      items := { group.items with deepest := max group.items.deepest (depth + 1) }
      last := some (depth + 1) }

/-- The group with another alternative begun. -/
def branch (group : Group) : Group := { branches := group.branches.add group.items.depth }

/-- The depth of what the group holds. -/
def depth (group : Group) : Nat := (group.branches.add group.items.depth).depth

end Group

/-- The part of a pattern that has been read. -/
structure Progress where
  mode : Mode := {}
  /-- The innermost group. -/
  group : Group := {}
  /-- The groups it lies in, each with the modes that hold in it. -/
  outer : List (Group × Mode) := []
  /-- The names of groups. -/
  names : List (List Char) := []

namespace Progress

/-- The progress with another part of a depth in the innermost group. -/
def add (progress : Progress) (depth : Nat) : Progress :=
  { progress with group := progress.group.add depth }

/-- The progress with an atom, if it may stand there. -/
def addAtom? (progress : Progress) (atom : Atom) : Option Progress :=
  if progress.mode.admits atom then some (progress.add 0) else none

/-- The progress with a group begun, in which modes hold. -/
def openGroup (progress : Progress) (mode : Mode) : Progress :=
  { progress with
    mode := mode
    group := {}
    outer := (progress.group, progress.mode) :: progress.outer }

/-- The progress with the innermost group ended.  The modes around it hold again. -/
def closeGroup? (progress : Progress) : Option Progress :=
  match progress.outer with
  | [] => none
  | (group, mode) :: outer =>
    some { progress with
      mode := mode, group := group.add (progress.group.depth + 1), outer := outer }

/-- Whether a text may name a group. -/
def isGroupName : List Char → Bool
  | [] => false
  | first :: rest =>
    (first = '_' || Text.isAlphabetic first) &&
      rest.all fun c => ['_', '.', '[', ']'].contains c || Text.isAlphanumeric c

/-- The progress with a group begun whose name is read first. -/
def openNamed? (progress : Progress) (chars : List Char) : Option (Progress × List Char) :=
  let name := chars.takeWhile (· ≠ '>')
  match chars.drop name.length with
  | '>' :: rest =>
    if isGroupName name && !progress.names.contains name then
      some ({ progress.openGroup progress.mode with names := name :: progress.names }, rest)
    else none
  | _ => none

/-- Switches up to the sign that ends them.  None may be given twice, and the hyphen may not
    come last. -/
def switches? (flags : List Char) : List Char → Option (List Char × List Char)
  | [] => none
  | c :: rest =>
    if c = ':' || c = ')' then
      if flags.getLast? = some '-' then none else some (flags, c :: rest)
    else if Mode.flagLetters.contains c && !flags.contains c then switches? (flags ++ [c]) rest
    else none

/-- The progress behind an opening parenthesis: a group with a name, a group with or without
    switches, or switches alone. -/
def parenthesis? (progress : Progress) (chars : List Char) : Option (Progress × List Char) :=
  match progress.mode.skip chars with
  | '?' :: 'P' :: '<' :: rest | '?' :: '<' :: rest => progress.openNamed? rest
  | '?' :: rest =>
    match switches? [] rest with
    | some (flags, ':' :: rest) => some (progress.openGroup (progress.mode.ofFlags flags), rest)
    | some (flags, ')' :: rest) =>
      if flags.isEmpty then none
      else
        some ({ progress with
          mode := progress.mode.ofFlags flags, group := progress.group.addSwitches }, rest)
    | _ => none
  | rest => some (progress.openGroup progress.mode, rest)

/-- The progress with the next part of a pattern, which does not start with characters that
    mean nothing, and what follows the part. -/
def step? (progress : Progress) : List Char → Option (Progress × List Char)
  | [] => none
  | '(' :: rest => progress.parenthesis? rest
  | ')' :: rest => progress.closeGroup?.map (·, rest)
  | '|' :: rest => some ({ progress with group := progress.group.branch }, rest)
  | '[' :: rest => do
    let (content, rest) ← openClass? progress.mode rest
    let (depth, rest) ← readClass? progress.mode content [] rest
    return (progress.add depth, rest)
  | '?' :: rest | '*' :: rest | '+' :: rest => do
    let group ← progress.group.repeatLast?
    let rest := if rest.head? = some '?' then rest.tail else rest
    return ({ progress with group := group }, rest)
  | '\\' :: rest => do
    let (atom, rest) ← Atom.ofEscape? progress.mode rest
    return (← progress.addAtom? atom, rest)
  | c :: rest =>
    if c = '\x7b' then none
    else if c = '.' then (progress.addAtom? .any).map (·, rest)
    else if c = '^' || c = '$' then (progress.addAtom? .boundary).map (·, rest)
    else (progress.addAtom? (.literal c false)).map (·, rest)

/-- The progress at the end of a pattern. -/
def finish? (progress : Progress) (chars : List Char) : Option Progress :=
  match progress.mode.skip chars with
  | [] => some progress
  | next :: more =>
    match progress.step? (next :: more) with
    | some (progress, rest) =>
      if rest.length < chars.length then progress.finish? rest else none
    | none => none
termination_by chars.length
decreasing_by assumption

end Progress

/-- Whether a text is a pattern. -/
def isWellFormed (text : List Char) : Bool :=
  (Progress.finish? {} text).any fun progress =>
    progress.outer.isEmpty && progress.group.depth ≤ depthLimit

end Quartet.Log.Pattern
