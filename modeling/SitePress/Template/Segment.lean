import SitePress.Template.Placeholder

/-!
# Segments

A template is a list of segments, each of them literal text or a placeholder.
Filling it goes through the segments in order, so the first placeholder without a
value is the one reported.  What a value holds is never read as a template again.

## Main definitions

* `Segment`, `Template` — a template after reading.
* `Segment.prepend` — puts literal text in front, keeping neighbouring literals one.
* `Values` — the values of keys.
* `Template.fill` — a template with its values put in.
-/

namespace SitePress

/-- A part of a template. -/
inductive Segment
  | literal (text : Text)
  | placeholder (slot : Placeholder)
  deriving DecidableEq, Repr

/-- A template after reading. -/
abbrev Template := List Segment

/-- The values of keys; keys may be without one. -/
abbrev Values := Text → Option Text

namespace Values

/-- The values listed as pairs of key and value; of two values of one key the first counts. -/
def ofList (pairs : List (Text × Text)) : Values :=
  fun key => pairs.lookup key

/-- The values of `first`, and those of `second` for keys that `first` lacks. -/
def orElse (first second : Values) : Values :=
  fun key => (first key).or (second key)

end Values

namespace Segment

/-- Puts literal text in front of segments: no empty literal comes in, and a literal
already in front takes the text up. -/
def prepend (text : Text) : Template → Template
  | .literal next :: segments => .literal (text ++ next) :: segments
  | segments => if text = [] then segments else .literal text :: segments

/-- What a segment contributes to the filled template. -/
def fill (values : Values) : Segment → Except MissingKey Text
  | .literal text => .ok text
  | .placeholder slot =>
    match values slot.key with
    | none => .error { key := slot.key }
    | some value => .ok (slot.block value)

end Segment

namespace Template

/-- The template with values put in, or the first key that has none. -/
def fill (values : Values) : Template → Except MissingKey Text
  | [] => .ok []
  | segment :: segments => do
    let front ← segment.fill values
    let rest ← fill values segments
    .ok (front ++ rest)

@[simp] theorem fill_nil (values : Values) : fill values [] = .ok [] := rfl

@[simp] theorem fill_literal_cons (values : Values) (text : Text) (segments : Template) :
    fill values (.literal text :: segments) = (fill values segments).map (text ++ ·) := by
  simp only [fill, Segment.fill]
  cases fill values segments <;> rfl

/-- Literal text in front of a template comes out in front of what it fills to. -/
theorem fill_prepend (values : Values) (text : Text) (segments : Template) :
    fill values (Segment.prepend text segments) = (fill values segments).map (text ++ ·) := by
  unfold Segment.prepend
  split
  · rw [fill_literal_cons, fill_literal_cons]
    cases fill values _ <;> simp [Except.map]
  · split
    next hempty =>
      subst hempty
      cases fill values _ <;> rfl
    · exact fill_literal_cons values text _

end Template

end SitePress
