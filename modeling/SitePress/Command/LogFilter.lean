import SitePress.Command.Directive

/-!
# Log filters

A filter is a list of directives separated by commas.  Of the directives that speak of an event
the most specific decides, and of two that are equally specific the later one.
-/

namespace SitePress

abbrev LogFilter := List Directive

namespace LogFilter

/-- Lets the events of all targets through, up to a level. -/
def upTo (level : Level) : LogFilter :=
  [{ target := [], scope := .everywhere, rank := level.rank }]

/-- The texts between commas that are not empty. -/
def pieces (t : Text) : List Text :=
  (t.splitOn ',').filter fun piece => !piece.isEmpty

/-- No directives mean that only errors matter. -/
def ofDirectives (directives : List Directive) : LogFilter :=
  if directives.isEmpty then upTo .error else directives

def ofText (t : Text) : Except SettingError LogFilter := do
  return ofDirectives (← (pieces t).mapM Directive.ofText)

/-- The filter of a text, without the directives in it that cannot be read. -/
def lossy (t : Text) : LogFilter :=
  ofDirectives ((pieces t).filterMap fun piece => (Directive.ofText piece).toOption)

/-- The more specific of two directives, the first one being the earlier. -/
def later (best : Option Directive) (directive : Directive) : Option Directive :=
  match best with
  | none => some directive
  | some other => if other.outranks directive then other else some directive

/-- The directive that decides about an event. -/
def deciding? (filter : LogFilter) (metadata : Metadata) : Option Directive :=
  (filter.filter fun directive => directive.covers metadata).foldl later none

def decision (filter : LogFilter) : Decision := fun metadata =>
  match filter.deciding? metadata with
  | none => false
  | some directive => metadata.level.rank ≤ directive.rank

end LogFilter

end SitePress
