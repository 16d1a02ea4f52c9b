import SitePress.Text.Numeral

/-!
# Format specifications

Between the key of a marker and its conversion letter may stand flags, a width, a
precision behind a point, and length modifiers.  Of these only the flag `-`, the
width and the precision say how the value is laid out; the rest is read and dropped.

## Main definitions

* `Layout` — how a value is laid out: alignment, width and precision.
* `FormatSpec` — a specification as written.
* `FormatSpec.scan` — the longest specification at the head of a text.
* `FormatSpec.layout?` — what a specification asks for, unless a number in it is too big.
-/

namespace SitePress

/-- How a converted value is laid out. -/
structure Layout where
  leftAlign : Bool
  /-- The number of characters to fill up to. -/
  width : Option Nat
  /-- The number of characters to keep. -/
  precision : Option Nat
  deriving DecidableEq, Repr

/-! ## Laying out -/

namespace Layout

/-- Keeps as many characters as the precision allows. -/
def truncate (layout : Layout) (t : Text) : Text :=
  match layout.precision with
  | none => t
  | some precision => t.take precision

/-- The spaces that bring a text up to the width. -/
def padding (layout : Layout) (t : Text) : Text :=
  List.replicate (layout.width.getD 0 - t.length) ' '

/-- Cuts a text to the precision, then pads it to the width. -/
def fit (layout : Layout) (t : Text) : Text :=
  let kept := layout.truncate t
  if layout.leftAlign then kept ++ layout.padding kept else layout.padding kept ++ kept

theorem length_truncate (layout : Layout) (t : Text) :
    (layout.truncate t).length = min (layout.precision.getD t.length) t.length := by
  unfold truncate
  split <;> simp [*]

/-- A laid out text is as long as the width, unless what is kept is longer. -/
theorem length_fit (layout : Layout) (t : Text) :
    (layout.fit t).length = max (layout.width.getD 0) (layout.truncate t).length := by
  unfold fit
  split <;> simp only [padding, List.length_append, List.length_replicate] <;> omega

end Layout

/-! ## Specifications as written -/

/-- A format specification, part by part as it is written. -/
structure FormatSpec where
  flags : Text
  /-- The digits of the width, which are none if no width is given. -/
  width : Text
  /-- The digits behind the point, if there is a point. -/
  precision : Option Text
  lengthModifiers : Text
  deriving DecidableEq, Repr

namespace FormatSpec

/-- The characters that are flags; a zero in front of the width is one. -/
def isFlag (c : Char) : Bool :=
  c ∈ ['#', '0', '-', ' ', '+']

def isLengthModifier (c : Char) : Bool :=
  c ∈ ['h', 'l', 'L']

/-- The point and the digits of a precision. -/
def precisionText : Option Text → Text
  | none => []
  | some digits => '.' :: digits

def text (spec : FormatSpec) : Text :=
  spec.flags ++ spec.width ++ precisionText spec.precision ++ spec.lengthModifiers

/-! ## Reading -/

/-- A point and the longest run of digits behind it, if the text starts with a point. -/
def scanPrecision : Text → Option Text × Text
  | '.' :: rest => (some (rest.takeWhile Char.isDigit), rest.dropWhile Char.isDigit)
  | rest => (none, rest)

/-- The specification at the head of a text, each part as long as it can be, and
the text behind it. -/
def scan (t : Text) : FormatSpec × Text :=
  let behindFlags := t.dropWhile isFlag
  let precision := scanPrecision (behindFlags.dropWhile Char.isDigit)
  ({ flags := t.takeWhile isFlag
     width := behindFlags.takeWhile Char.isDigit
     precision := precision.1
     lengthModifiers := precision.2.takeWhile isLengthModifier },
   precision.2.dropWhile isLengthModifier)

theorem text_append_scanPrecision (t : Text) :
    precisionText (scanPrecision t).1 ++ (scanPrecision t).2 = t := by
  unfold scanPrecision
  split <;> simp [precisionText]

/-- A scan loses nothing: the specification and the text behind it are the text. -/
theorem text_append_scan (t : Text) : (scan t).1.text ++ (scan t).2 = t := by
  simp only [scan, text, List.append_assoc, List.takeWhile_append_dropWhile,
    text_append_scanPrecision]

/-! ## What is asked for -/

/-- The width of the machine words in which numbers are computed. -/
def wordBits : Nat := 64

/-- The layout that a specification asks for; a point without digits asks for the
precision 0.  `none` when the width or the precision is above `Numeral.limit`. -/
def layout? (spec : FormatSpec) : Option Layout := do
  let width ← Numeral.ofDigits? wordBits spec.width
  let precision ← match spec.precision with
    | none => some none
    | some digits => (Numeral.ofDigits? wordBits digits).map fun n => some (n.getD 0)
  some { leftAlign := '-' ∈ spec.flags, width, precision }

end FormatSpec

end SitePress
