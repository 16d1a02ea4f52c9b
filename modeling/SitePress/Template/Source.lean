import SitePress.Template.Segment

/-!
# Templates as text

Segments are written back as template text: literals with their percent signs
doubled, placeholders as markers that say no more than they need to.  A template for
which only some values are known is specialised: the known placeholders become
literals, and the text that is left can be expanded later.
-/

namespace SitePress

/-- A text with its percent signs doubled: the template that stands for this text. -/
def doublePercents (t : Text) : Text :=
  t.flatMap fun c => if c = '%' then ['%', '%'] else [c]

/-- A layout as a format specification. -/
def Layout.source (layout : Layout) : Text :=
  (if layout.leftAlign then ['-'] else []) ++
    layout.width.elim [] Numeral.ofNat ++
    layout.precision.elim [] fun precision => '.' :: Numeral.ofNat precision

def Placeholder.source (placeholder : Placeholder) : Text :=
  ['%', '('] ++ placeholder.key ++ [')'] ++ placeholder.layout.source ++
    [placeholder.conversion.letter]

namespace Segment

def source : Segment → Text
  | .literal text => doublePercents text
  | .placeholder slot => slot.source

/-- A placeholder that has a value becomes what it contributes; all else stays. -/
def settle (values : Values) : Segment → Segment
  | .literal text => .literal text
  | .placeholder slot =>
    match values slot.key with
    | none => .placeholder slot
    | some value => .literal (slot.block value)

end Segment

namespace Template

def source (segments : Template) : Text :=
  segments.flatMap Segment.source

/-- The text of a template in which the placeholders with a value have been settled. -/
def specialise (values : Values) (segments : Template) : Text :=
  source (segments.map (Segment.settle values))

end Template

end SitePress
