import SitePress.Template.Segment

/-!
# Normal templates

Of all lists of segments that fill to the same texts, a normal one has no empty and
no neighbouring literals, and its placeholders can be written as markers.  Normal
templates are put behind one another by joining the two literals that may meet.
-/

namespace SitePress

/-- A placeholder is what some marker stands for: the key is balanced, a width is not
zero, and no number is above `Numeral.limit`. -/
structure Placeholder.Writable (placeholder : Placeholder) : Prop where
  key : Key.Balanced placeholder.key
  width : ∀ width ∈ placeholder.layout.width, 1 ≤ width ∧ width ≤ Numeral.limit
  precision : ∀ precision ∈ placeholder.layout.precision, precision ≤ Numeral.limit

namespace Segment

/-- No empty literal, and no placeholder that markers cannot stand for. -/
def Proper : Segment → Prop
  | .literal text => text ≠ []
  | .placeholder slot => slot.Writable

end Segment

namespace Template

/-- No empty literals, no neighbouring literals, and only writable placeholders. -/
structure Normal (segments : Template) : Prop where
  proper : ∀ segment ∈ segments, segment.Proper
  apart : ∀ front s t behind, segments ≠ front ++ .literal s :: .literal t :: behind

/-- One template behind another; literals that meet become one. -/
def append : Template → Template → Template
  | [], behind => behind
  | [.literal text], behind => Segment.prepend text behind
  | segment :: segments, behind => segment :: append segments behind

end Template

end SitePress
