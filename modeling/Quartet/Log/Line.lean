import Quartet.Log.Filter
import Quartet.Text.Quoted

namespace Quartet.Log

/-!
# Log lines

A shown event takes one line: its level, right-aligned, its message and its details.  The time at
which it was told, and the colours of a terminal, which are written in front of these and around
them, are left out: they depend on the clock and on where the lines go, not on the event.

* `line` — the line of an event.
* `text` — the lines of the events that a filter shows.
-/

/-- The width of the column of levels. -/
def levelWidth : Nat := 5

/-- The value of a detail as it is shown. -/
def detailText : Detail → String
  | .number value => s!"{value}"
  | .quoted text => Text.quoted text
  | .plain text => text

/-- A level, filled up to the width of its column. -/
def levelText (level : Level) : String :=
  String.ofList (List.replicate (levelWidth - level.name.length) ' ') ++ level.name

/-- The line of an event. -/
def line (event : Event) : String :=
  s!"{levelText event.level} {Text.harmless event.message}" ++
    String.join (event.details.map fun (name, detail) => s!" {name}={detailText detail}") ++ "\n"

/-- The lines of the events that a filter shows. -/
def text (filter : Filter) (events : List Event) : String :=
  String.join ((events.filter filter.shows).map line)

end Quartet.Log
