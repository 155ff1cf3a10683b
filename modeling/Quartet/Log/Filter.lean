import Quartet.Log.Directive

namespace Quartet.Log

/-!
# Filters

A filter says which events are shown.  It is a list of directives, separated by commas.  Of
those that are about an event, the most specific counts.

* `Filter.ofText?` — a filter read from its text.
* `Filter.shows` — whether an event is shown.
-/

/-- A list of directives. -/
abbrev Filter := List Directive

namespace Filter

/-- The filter used when there is no other: warnings and errors. -/
def standard : Filter := [⟨none, none, false, rank .warn⟩]

/-- A filter read from its text, if every directive can be read. -/
def ofText? (text : String) : Option Filter :=
  ((Text.pieces (· == ',') text.toList).filter (!·.isEmpty)).mapM Directive.ofText?

/-- The filter set by a text, or the standard one if there is no text or no reading of it. -/
def ofSetting (setting : Option String) : Filter :=
  (setting.bind ofText?).getD standard

/-- The directive that counts for an event: the most specific, and of equals the last. -/
def decisive? (filter : Filter) (event : Event) : Option Directive :=
  (filter.filter (·.isAbout event)).foldl
    (fun best directive =>
      match best with
      | none => some directive
      | some other => if directive.isAtLeast other then some directive else best)
    none

/-- Whether an event is shown. -/
def shows (filter : Filter) (event : Event) : Bool :=
  (filter.decisive? event).any fun directive => rank event.level ≤ directive.limit

end Filter

end Quartet.Log
