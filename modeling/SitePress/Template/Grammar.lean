import SitePress.Template.Segment

/-!
# The grammar of templates

A template text is a sequence of pieces: characters that stand for themselves,
doubled percent signs, and markers.  This says what the texts of templates are
without saying how they are read.

## Main definitions

* `Marker`, `Marker.text` — a marker, part by part as it is written.
* `Piece` — a piece of a template text.
* `Derives` — that a text is written as a sequence of pieces.
* `Template.ofPieces` — the segments that pieces stand for.
-/

namespace SitePress

/-! ## Markers -/

/-- A marker, part by part as it is written. -/
structure Marker where
  key : Text
  format : FormatSpec
  conversion : Conversion
  deriving DecidableEq, Repr

/-- The parts of a format specification are in their alphabets, the width has no zero
in front, and no number is above `Numeral.limit`. -/
structure FormatSpec.WellFormed (format : FormatSpec) : Prop where
  flags : ∀ c ∈ format.flags, FormatSpec.isFlag c
  width : ∀ c ∈ format.width, c.isDigit
  width_head : format.width.head? ≠ some '0'
  width_le : Numeral.value format.width ≤ Numeral.limit
  precision : ∀ digits ∈ format.precision, ∀ c ∈ digits, c.isDigit
  precision_le : ∀ digits ∈ format.precision, Numeral.value digits ≤ Numeral.limit
  lengthModifiers : ∀ c ∈ format.lengthModifiers, FormatSpec.isLengthModifier c

/-- What a specification asks for: no width is given by no digits, and a point without
digits gives the precision 0. -/
def FormatSpec.layout (spec : FormatSpec) : Layout :=
  { leftAlign := '-' ∈ spec.flags
    width := if spec.width = [] then none else some (Numeral.value spec.width)
    precision := spec.precision.map Numeral.value }

namespace Marker

def text (marker : Marker) : Text :=
  ['%', '('] ++ marker.key ++ [')'] ++ marker.format.text ++ [marker.conversion.letter]

/-- The key is balanced and the format specification well formed. -/
structure WellFormed (marker : Marker) : Prop where
  key : Key.Balanced marker.key
  format : marker.format.WellFormed

def placeholder (marker : Marker) : Placeholder :=
  { key := marker.key, layout := marker.format.layout, conversion := marker.conversion }

end Marker

/-! ## Pieces -/

/-- A piece of a template text. -/
inductive Piece
  /-- A character that stands for itself. -/
  | char (c : Char)
  /-- A doubled percent sign. -/
  | percent
  | marker (marker : Marker)
  deriving DecidableEq, Repr

namespace Piece

def text : Piece → Text
  | .char c => [c]
  | .percent => ['%', '%']
  | .marker m => m.text

/-- Only percent signs do not stand for themselves, and markers are well formed. -/
def WellFormed : Piece → Prop
  | .char c => c ≠ '%'
  | .percent => True
  | .marker m => m.WellFormed

/-- Puts a piece in front of segments. -/
def cons : Piece → Template → Template
  | .char c, segments => Segment.prepend [c] segments
  | .percent, segments => Segment.prepend ['%'] segments
  | .marker m, segments => .placeholder m.placeholder :: segments

end Piece

/-- A text is written as a sequence of well-formed pieces. -/
structure Derives (t : Text) (pieces : List Piece) : Prop where
  wellFormed : ∀ piece ∈ pieces, piece.WellFormed
  text : t = pieces.flatMap Piece.text

/-- The segments that pieces stand for, neighbouring literal text being one segment. -/
def Template.ofPieces (pieces : List Piece) : Template :=
  pieces.foldr Piece.cons []

end SitePress
