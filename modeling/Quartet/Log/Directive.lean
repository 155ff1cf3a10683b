import Quartet.Event
import Quartet.Log.Pattern.Basic
import Quartet.Text.Number

namespace Quartet.Log

/-!
# Directives

A filter is made of directives.  Each sets how much is shown of the events it is about.

* `warn` shows warnings and errors of every component; `off` shows nothing.
* `disk::cache=debug` sets a level for the components whose path starts with the given text.
* `disk::cache` alone shows everything of them.
* `[{index}]=info` is about the events that have a detail of that name.  A directive that
  names a span, or the value of a detail, is about events within spans alone, and there are no
  spans.

Blanks around a directive do not count when its parts are looked for.  The parts are then cut
out of the text with its blanks, at the same distances from the start, so that blanks at the
start move every cut to the left.

* `Directive.ofText?` — a directive read from its text.
* `Directive.isAbout` — the events that a directive is about.
* `Directive.isAtLeast` — which of two directives is the more specific.
-/

/-- One part of a filter. -/
structure Directive where
  /-- The text that the path of an event's component starts with. -/
  target : Option String
  /-- The detail that an event has to have. -/
  detail : Option String
  /-- Whether the directive is about events within spans alone. -/
  withinSpans : Bool
  /-- The greatest rank that is shown. -/
  limit : Nat
deriving DecidableEq

/-- The rank of a level: the less an event matters, the greater. -/
def rank : Level → Nat
  | .error => 1
  | .warn => 2
  | .info => 3
  | .debug => 4

/-- The limit under which everything is shown. -/
def everything : Nat := 5

/-- The words for limits, from 0 on. -/
def limitWords : List String := ["off", "error", "warn", "info", "debug", "trace"]

/-- The limit that a word, in letters of either case, or a number stands for. -/
def limit? (text : String) : Option Nat :=
  match Text.unsigned? text with
  | some number => if number ≤ everything then some number else none
  | none => limitWords.findIdx? (· == text.map Char.toLower)

/-! ### Cutting a text -/

/-- The number of bytes of a text. -/
def size : List Char → Nat
  | [] => 0
  | c :: rest => c.utf8Size + size rest

/-- A text without a number of bytes at its start, if these are whole characters. -/
def dropBytes? : Nat → List Char → Option (List Char)
  | 0, chars => some chars
  | _ + 1, [] => none
  | count + 1, c :: rest =>
    if c.utf8Size ≤ count + 1 then dropBytes? (count + 1 - c.utf8Size) rest else none

/-- A number of bytes at the start of a text, if these are whole characters. -/
def takeBytes? (count : Nat) (chars : List Char) : Option (List Char) :=
  (dropBytes? count chars).map fun rest => chars.take (chars.length - rest.length)

/-- The part of a text between two places, counted in bytes. -/
def cut? (text : List Char) (start stop : Nat) : Option (List Char) :=
  (dropBytes? start text).bind (takeBytes? (stop - start))

namespace Directive

/-- Whether a directive may start with this character, if it does not start with a bracket. -/
def startsName (c : Char) : Bool := ['-', ':', '_'].contains c || Text.isAlphanumeric c

/-- A text without the blanks at its ends. -/
def trimmed (text : List Char) : List Char :=
  ((text.dropWhile Text.isBlank).reverse.dropWhile Text.isBlank).reverse

/-- The limit that stands in a text from a place on, and everything if none stands there. -/
def limitFrom? (text : List Char) (start : Nat) : Option Nat :=
  (dropBytes? start text).bind fun level =>
    if level.isEmpty then some everything else limit? (String.ofList level)

/-- Whether a text may stand for the value of a detail. -/
def isValue (chars : List Char) : Bool := Text.isNumber chars || Pattern.isWellFormed chars

/-- The name in a text that asks for a detail, and whether a value is asked for as well.  What
    stands behind a second equals sign does not count. -/
def detail? (text : List Char) : Option (String × Bool) :=
  match Text.pieces (· == '=') text with
  | [] => none
  | [name] => if name.isEmpty then none else some (String.ofList name, false)
  | name :: value :: _ => if isValue value then some (String.ofList name, true) else none

/-- The rest of a directive from the place after its bracket on, where `rest` is what is looked
    through and `text` what is cut. -/
def bracketed? (text : List Char) (target : Option String) (start : Nat) (rest : List Char) :
    Option Directive := do
  let span := rest.takeWhile fun c => c ≠ ']' && c ≠ '\x7b'
  let stop := start + size span
  let spanName ← cut? text start stop
  let limitAfter? (place : Nat) (rest : List Char) : Option Nat :=
    match rest with
    | [] => some everything
    | c :: _ => if c = '=' then limitFrom? text (place + 1) else none
  match rest.drop span.length with
  | ']' :: rest => return ⟨target, none, true, ← limitAfter? (stop + 1) rest⟩
  | _ :: rest =>
    let inner := rest.takeWhile (· ≠ '\x7d')
    let last := stop + 1 + size inner
    let (name, hasValue) ← detail? (← cut? text (stop + 1) last)
    match rest.drop inner.length with
    | _ :: ']' :: rest =>
      return ⟨target, some name, hasValue || !spanName.isEmpty, ← limitAfter? (last + 2) rest⟩
    | _ => none
  | [] => none

/-- A directive read from its text. -/
def ofText? (text : List Char) : Option Directive :=
  match trimmed text with
  | [] => none
  | '[' :: rest => bracketed? text none 1 rest
  | first :: others =>
    if !startsName first then none
    else
      let name := (first :: others).takeWhile fun c => c ≠ '=' && c ≠ '['
      match (first :: others).drop name.length with
      | [] =>
        match limit? (String.ofList text) with
        | some limit => some ⟨none, none, false, limit⟩
        | none => some ⟨some (String.ofList text), none, false, everything⟩
      | '[' :: rest => do
        let target ← cut? text 0 (size name)
        bracketed? text (some (String.ofList target)) (size name + 1) rest
      | _ => do
        let target ← cut? text 0 (size name)
        return ⟨some (String.ofList target), none, false, ← limitFrom? text (size name + 1)⟩

/-- Whether a directive is about an event. -/
def isAbout (directive : Directive) (event : Event) : Bool :=
  !directive.withinSpans &&
    (directive.target.all fun target => target.toList.isPrefixOf event.origin.toList) &&
    directive.detail.all fun name => name == "message" || event.details.any (·.1 == name)

/-- How specific a directive is: the length of its target counts more than a detail, and a
    target of any length more than none. -/
def weight (directive : Directive) : Nat :=
  2 * (match directive.target with
    | none => 0
    | some target => target.length + 1) + (if directive.detail.isSome then 1 else 0)

/-- Whether a directive is at least as specific as another.  Of two that ask for a detail and
    are equal otherwise, the one whose detail's name is the later in the order of texts is. -/
def isAtLeast (directive other : Directive) : Bool :=
  other.weight < directive.weight ||
    (other.weight == directive.weight &&
      !decide (directive.detail.getD "" < other.detail.getD ""))

end Directive

end Quartet.Log
