import SitePress.Template.Error
import SitePress.Template.FormatSpec
import SitePress.Template.Key
import SitePress.Text.Quoted

/-!
# Placeholders

A marker `%(key)…s` stands for a placeholder: a key, the conversion that its value
goes through, and the layout of the result.
-/

namespace SitePress

/-! ## Conversions -/

/-- How a value is shown. -/
inductive Conversion
  | plain
  | quoted
  | ascii
  deriving DecidableEq, Repr

namespace Conversion

def letter : Conversion → Char
  | .plain => 's'
  | .quoted => 'r'
  | .ascii => 'a'

/-- The conversion that a letter stands for. -/
def ofLetter? (c : Char) : Option Conversion :=
  if c = 's' then some .plain
  else if c = 'r' then some .quoted
  else if c = 'a' then some .ascii
  else none

/-- A value, converted. -/
def convert : Conversion → Text → Text
  | .plain, value => value
  | .quoted, value => Quoted.encode false value
  | .ascii, value => Quoted.encode true value

@[simp] theorem ofLetter?_letter (conversion : Conversion) :
    ofLetter? conversion.letter = some conversion := by
  cases conversion <;> rfl

theorem letter_of_ofLetter? {c : Char} {conversion : Conversion}
    (h : ofLetter? c = some conversion) : c = conversion.letter := by
  unfold ofLetter? at h
  split at h
  · cases h; assumption
  split at h
  · cases h; assumption
  split at h
  · cases h; assumption
  · contradiction

end Conversion

/-! ## Placeholders -/

/-- What a marker stands for. -/
structure Placeholder where
  key : Text
  layout : Layout
  conversion : Conversion
  deriving DecidableEq, Repr

namespace Placeholder

/-- What a placeholder contributes for a value: the value converted, then cut to the
precision, then padded to the width. -/
def block (placeholder : Placeholder) (value : Text) : Text :=
  placeholder.layout.fit (placeholder.conversion.convert value)

/-! ## Reading -/

/-- The body of a marker, from its opening parenthesis to its conversion letter. -/
structure Body where
  placeholder : Placeholder
  /-- The number of bytes of the body. -/
  size : Nat
  rest : Text
  deriving DecidableEq, Repr

/-- Reads the body of a marker from the text behind its opening parenthesis.  Faults
are found in the order of the parts, except that a number is known to be too big
before the text behind it is looked at. -/
def read (t : Text) : Except Fault Body :=
  match Key.split? t with
  | none => .error .incompleteKey
  | some (key, behindKey) =>
    let scanned := FormatSpec.scan behindKey
    match scanned.1.layout? with
    | none => .error .tooBig
    | some layout =>
      match scanned.2 with
      | [] => .error .incompleteFormat
      | c :: rest =>
        match Conversion.ofLetter? c with
        | none => .error (.unsupportedConversion c)
        | some conversion =>
          .ok { placeholder := { key, layout, conversion }
                size := (Text.utf8Size key + 2) + (Text.utf8Size scanned.1.text + c.utf8Size)
                rest }

/-- A body that was read is in front of its rest, and its size is the number of bytes
read, the opening parenthesis included. -/
theorem eq_of_read {t : Text} {body : Body} (h : read t = .ok body) :
    ∃ taken, t = taken ++ body.rest ∧ body.size = Text.utf8Size ('(' :: taken) := by
  unfold read at h
  split at h
  · contradiction
  next key behindKey hkey =>
    simp only at h
    split at h
    · contradiction
    split at h
    · contradiction
    next c rest hrest =>
      split at h
      · contradiction
      · cases h
        refine ⟨key ++ ')' :: (FormatSpec.scan behindKey).1.text ++ [c], ?_, ?_⟩
        · rw [Key.eq_of_split? hkey]
          conv => lhs; rw [← FormatSpec.text_append_scan behindKey, hrest]
          simp
        · have hopen : '('.utf8Size = 1 := rfl
          have hclose : ')'.utf8Size = 1 := rfl
          simp only [Text.utf8Size_append, Text.utf8Size_cons, Text.utf8Size_nil, hopen, hclose]
          omega

theorem length_rest_le {t : Text} {body : Body} (h : read t = .ok body) :
    body.rest.length ≤ t.length := by
  obtain ⟨taken, rfl, _⟩ := eq_of_read h
  simp

end Placeholder

end SitePress
