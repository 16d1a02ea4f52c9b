import SitePress.Site.Build
import SitePress.Text.Literal

/-!
# The log

An event becomes a line of the log if a filter lets it through.  A filter sees the metadata of
an event only, and these are the same for all events of a kind.  How a line looks is for the
writer of the log to say; `Event.line` has the time, the level, the target, what happened, and
the particulars, names of pages being literals and paths being as they are.
-/

namespace SitePress

inductive Level
  | error
  | warn
  | info
  | debug
  | trace
  deriving DecidableEq, Repr

/-! ## Metadata -/

/-- What a filter can decide by. -/
structure Metadata where
  target : Text
  level : Level
  fields : List Text
  deriving DecidableEq, Repr

namespace Metadata

def resolved : Metadata where
  target := "pagestamp::render".toList
  level := .debug
  fields := ["message", "page", "contents", "template", "output"].map String.toList

def wrote : Metadata where
  target := "pagestamp::build".toList
  level := .info
  fields := ["message", "page"].map String.toList

def complete : Metadata where
  target := "pagestamp::build".toList
  level := .info
  fields := ["message", "pages"].map String.toList

end Metadata

def Event.metadata : Event → Metadata
  | .resolved .. => .resolved
  | .wrote .. => .wrote
  | .complete .. => .complete

/-- Which events are let through. -/
abbrev Decision := Metadata → Bool

/-! ## Lines -/

/-- What happened, with the particulars. -/
def Event.describe : Event → Text
  | .resolved page fragment template output =>
    "resolved page paths page=".toList ++ Literal.ofText page ++
      " contents=".toList ++ fragment ++ " template=".toList ++ template ++
      " output=".toList ++ output
  | .wrote page => "wrote page page=".toList ++ Literal.ofText page
  | .complete pages => "build complete pages=".toList ++ Numeral.ofNat pages

def Level.label : Level → Text
  | .error => "ERROR".toList
  | .warn => " WARN".toList
  | .info => " INFO".toList
  | .debug => "DEBUG".toList
  | .trace => "TRACE".toList

def Event.line (time : Text) (event : Event) : Text :=
  time ++ ' ' :: event.metadata.level.label ++ ' ' :: event.metadata.target ++ ": ".toList ++
    event.describe ++ ['\n']

/-- The lines of the events that are let through, in order. -/
def logLines (decision : Decision) (line : Event → Text) (events : List Event) : Text :=
  (events.filter fun event => decision event.metadata).flatMap line

end SitePress
