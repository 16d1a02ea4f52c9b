import SitePress.Command.FieldValue
import SitePress.Command.Libraries

/-!
# Directives

A directive opens the log, up to a level, for the events of some targets, as `site=info` does, or
only for those that have a certain field, as in `site[{page}]=info`, or are inside a span.  Blanks
in front of a directive displace its parts: they are taken from as many bytes further ahead as the
blanks have, and if these bytes begin or end inside a character, then reading panics.
-/

namespace SitePress

/-! ## Levels -/

namespace Level

/-- Levels in the order in which a log opens up, from 1. -/
def rank : Level → Nat
  | .error => 1
  | .warn => 2
  | .info => 3
  | .debug => 4
  | .trace => 5

/-- The number that digits write; one plus sign may stand in front of them. -/
def number? (t : Text) : Option Nat :=
  let digits := if t.head? = some '+' then t.tail else t
  if digits ≠ [] ∧ digits.all Char.isDigit then some (Numeral.value digits) else none

/-- The rank that a name stands for, whatever its case. -/
def rankOfName? (t : Text) : Option Nat :=
  let name := t.map Char.toLower
  if name = "off".toList then some 0
  else if name = "error".toList then some Level.error.rank
  else if name = "warn".toList then some Level.warn.rank
  else if name = "info".toList then some Level.info.rank
  else if name = "debug".toList then some Level.debug.rank
  else if name = "trace".toList then some Level.trace.rank
  else none

/-- The rank that a text stands for, by name or as a number; the rank 0 lets nothing through. -/
def rank? (t : Text) : Option Nat :=
  match number? t with
  | some n => if n ≤ Level.trace.rank then some n else none
  | none => rankOfName? t

end Level

/-! ## Scopes -/

/-- The events of a target that a directive speaks of. -/
inductive Scope
  | everywhere
  | withField (name : Text)
  | insideSpan
  deriving DecidableEq, Repr

namespace Scope

/-- Whether a scope holds an event with these fields.  No event is inside a span. -/
def holds (fields : List Text) : Scope → Bool
  | .everywhere => true
  | .withField name => fields.contains name
  | .insideSpan => false

def fieldName : Scope → Text
  | .withField name => name
  | _ => []

end Scope

/-! ## Displaced parts -/

/-- Bytes of a text are taken as text that begin or end inside a character. -/
def SettingError.cut : SettingError :=
  .panicked "byte index is not a char boundary".toList

/-- What is taken for a part of a directive behind some blanks, where `front` stands between
these and the part: as many bytes as the part has, from where it would be without the blanks. -/
def displaced (indent front part : Text) : Except SettingError Text :=
  match (Text.dropBytes? front.utf8Size (indent ++ front ++ part)).bind
      (Text.takeBytes? part.utf8Size) with
  | none => .error .cut
  | some taken => .ok taken

/-- What is taken for the rest of a directive. -/
def displacedRest (indent front rest : Text) : Except SettingError Text :=
  match Text.dropBytes? front.utf8Size (indent ++ front ++ rest) with
  | none => .error .cut
  | some taken => .ok taken

def orRefused {α : Type} : Option α → Except SettingError α
  | none => .error .refused
  | some a => .ok a

/-! ## Selectors -/

namespace Selector

/-- The characters of a span's name: it ends at the closing bracket or at a brace. -/
def inSpan (c : Char) : Bool :=
  c != ']' && c != '\x7b'

/-- The value behind the equals sign of a field, up to another one. -/
def value? (field : Text) : Option Text :=
  match field.dropWhile (· != '=') with
  | [] => none
  | _ :: rest => some (rest.takeWhile (· != '='))

/-- The events with a field inside a span, or anywhere if it has no name; none if the field
has a value that cannot be read. -/
def scope? (span field : Text) : Option Scope :=
  match value? field with
  | some value => if FieldValue.isReadable value then some .insideSpan else none
  | none => some (if span = [] then .withField field else .insideSpan)

/-- The scope of the brackets behind some blanks and `front`, which ends in the opening bracket:
the name of a span, and then a field in braces or none.  Returns what stands in front of the
text behind the brackets, and this text. -/
def read (indent front t : Text) : Except SettingError (Scope × Text × Text) :=
  let span := t.takeWhile inSpan
  match t.dropWhile inSpan with
  | ']' :: rest => do
    let _ ← displaced indent front span
    return (.insideSpan, front ++ span ++ [']'], rest)
  | '\x7b' :: inner => do
    let _ ← displaced indent front span
    let front := front ++ span ++ ['\x7b']
    let field := inner.takeWhile (· != '\x7d')
    match inner.dropWhile (· != '\x7d') with
    | '\x7d' :: rest =>
      let taken ← displaced indent front field
      if field = [] then .error .refused
      let scope ← orRefused (scope? span taken)
      match rest with
      | ']' :: rest => return (scope, front ++ field ++ ['\x7d', ']'], rest)
      | _ => .error .refused
    | _ => .error .refused
  | _ => .error .refused

end Selector

/-! ## Directives -/

/-- Opens the log of some events up to a level. -/
structure Directive where
  target : Text
  scope : Scope
  /-- The rank of the last level that is let through; none is, if it is zero. -/
  rank : Nat
  deriving DecidableEq, Repr

namespace Directive

/-- The characters of a target: it ends at an equals sign or at an opening bracket. -/
def inTarget (c : Char) : Bool :=
  c != '=' && c != '['

/-- Whether a text starts as the names of targets do. -/
def startsName : Text → Bool
  | [] => false
  | c :: _ => c == '-' || c == ':' || c == '_' || CharacterClass.isAlphanumeric c

/-- A directive without equals sign and bracket: a level, or a target. -/
def ofName (name : Text) : Directive :=
  match Level.rank? name with
  | some rank => { target := [], scope := .everywhere, rank }
  | none => { target := name, scope := .everywhere, rank := Level.trace.rank }

/-- The rank that is assigned behind `front`, every level by an empty text. -/
def assigned (indent front level : Text) : Except SettingError Nat := do
  let taken ← displacedRest indent front level
  if taken = [] then return Level.trace.rank else orRefused (Level.rank? taken)

/-- The rank that is given behind brackets, every level if only blanks are there. -/
def rankBehind (indent front : Text) : Text → Except SettingError Nat
  | '=' :: level => assigned indent (front ++ ['=']) level
  | rest => if rest.all CharacterClass.isWhiteSpace then .ok Level.trace.rank else .error .refused

/-- Reads a directive: a level or a target, a target and its level, or a target that may be
empty, brackets and their level. -/
def ofText (t : Text) : Except SettingError Directive :=
  let indent := t.takeWhile CharacterClass.isWhiteSpace
  let body := t.dropWhile CharacterClass.isWhiteSpace
  let head := body.takeWhile inTarget
  match body.dropWhile inTarget with
  | '[' :: inner =>
    if head = [] ∨ startsName head then do
      let target ← displaced indent [] head
      let (scope, front, rest) ← Selector.read indent (head ++ ['[']) inner
      return { target, scope, rank := ← rankBehind indent front rest }
    else .error .refused
  | '=' :: level =>
    if startsName head then do
      let target ← displaced indent [] head
      return { target, scope := .everywhere, rank := ← assigned indent (head ++ ['=']) level }
    else .error .refused
  | _ => if startsName head then .ok (ofName t) else .error .refused

def covers (directive : Directive) (metadata : Metadata) : Bool :=
  directive.target.isPrefixOf metadata.target && directive.scope.holds metadata.fields

/-- Whether a directive is more specific than another: its target is longer, or as long
and it asks for a field, or for one whose name comes later. -/
def outranks (directive other : Directive) : Bool :=
  other.target.length < directive.target.length ||
    other.target.length == directive.target.length &&
      compare other.scope.fieldName directive.scope.fieldName == .lt

end Directive

end SitePress
