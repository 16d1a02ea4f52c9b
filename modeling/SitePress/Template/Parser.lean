import SitePress.Template.Segment

/-!
# Reading templates

A template is read in strides.  A stride takes the literal text up to the next
percent sign and, with it, the doubled percent sign or the marker that follows; a
cursor carries the text not yet read and the number of bytes read so far, by which
a faulty marker is located.

## Main definitions

* `Cursor` — a place in a template.
* `Cursor.stride` — reads up to and including the next percent sign and what belongs to it.
* `Template.parse` — a text as a template.
* `Template.expand` — reads a template and fills it.
-/

namespace SitePress

/-- A place in a template. -/
structure Cursor where
  offset : Nat
  rest : Text
  deriving DecidableEq, Repr

/-- What one stride finds behind the literal text it takes first. -/
inductive Stride
  /-- The end of the template. -/
  | finish (literal : Text)
  /-- A doubled percent sign, which stands for a single one. -/
  | percent (literal : Text) (next : Cursor)
  /-- A marker. -/
  | marker (literal : Text) (slot : Placeholder) (next : Cursor)
  deriving DecidableEq, Repr

namespace Cursor

/-- Whether a character stands for itself wherever it is outside a marker. -/
def isPlain (c : Char) : Bool :=
  c != '%'

/-- Reads from a place up to and including the next percent sign and what belongs to it. -/
def stride (cursor : Cursor) : Except SyntaxError Stride :=
  let literal := cursor.rest.takeWhile isPlain
  let start := cursor.offset + Text.utf8Size literal
  match cursor.rest.dropWhile isPlain with
  | [] => .ok (.finish literal)
  | [_] => .error { offset := start, fault := .incompleteFormat }
  | _ :: c :: rest =>
    if c = '%' then
      .ok (.percent literal { offset := start + 1 + 1, rest })
    else if c = '(' then
      match Placeholder.read rest with
      | .error fault => .error { offset := start, fault }
      | .ok body =>
        .ok (.marker literal body.placeholder
          { offset := start + 1 + body.size, rest := body.rest })
    else .error { offset := start, fault := .requiresMapping }

/-! ## Strides go forward -/

theorem length_rest_lt_of_percent {cursor next : Cursor} {literal : Text}
    (h : cursor.stride = .ok (.percent literal next)) :
    next.rest.length < cursor.rest.length := by
  have shorter := (List.dropWhile_sublist (l := cursor.rest) isPlain).length_le
  unfold stride at h
  split at h
  · cases h
  · cases h
  next c d rest hdrop =>
    rw [hdrop] at shorter
    split at h
    · cases h
      simp only [List.length_cons] at shorter ⊢
      omega
    · split at h
      · split at h <;> cases h
      · cases h

/-- Behind a marker less text is left. -/
theorem length_rest_lt_of_marker {cursor next : Cursor} {literal : Text} {slot : Placeholder}
    (h : cursor.stride = .ok (.marker literal slot next)) :
    next.rest.length < cursor.rest.length := by
  have shorter := (List.dropWhile_sublist (l := cursor.rest) isPlain).length_le
  unfold stride at h
  split at h
  · cases h
  · cases h
  next c d rest hdrop =>
    rw [hdrop] at shorter
    split at h
    · cases h
    · split at h
      · split at h
        · cases h
        next body hbody =>
          cases h
          have := Placeholder.length_rest_le hbody
          simp only [List.length_cons] at shorter ⊢
          omega
      · cases h

/-! ## Segments -/

def segments (cursor : Cursor) : Except SyntaxError Template :=
  match h : cursor.stride with
  | .error error => .error error
  | .ok (.finish literal) => .ok (Segment.prepend literal [])
  | .ok (.percent literal next) =>
    have := length_rest_lt_of_percent h
    next.segments.map (Segment.prepend (literal ++ ['%']))
  | .ok (.marker literal slot next) =>
    have := length_rest_lt_of_marker h
    next.segments.map fun behind => Segment.prepend literal (.placeholder slot :: behind)
termination_by cursor.rest.length

end Cursor

/-! ## Templates -/

namespace Template

/-- A text as a template, or the first marker in it that is not well formed. -/
def parse (t : Text) : Except SyntaxError Template :=
  Cursor.segments { offset := 0, rest := t }

/-- Reads a template and fills it.  A faulty marker anywhere wins over a missing key. -/
def expand (t : Text) (values : Values) : Except TemplateError Text := do
  let segments ← (parse t).mapError .malformed
  (segments.fill values).mapError .missing

end Template

end SitePress
