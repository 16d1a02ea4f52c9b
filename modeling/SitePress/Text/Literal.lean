import SitePress.Text.CharacterClass
import SitePress.Text.Hexadecimal

/-!
# Literals

Messages and log lines show foreign characters and names as literals: a character
between single quotes, a text between double quotes.  A literal stays on one line
and shows no invisible character: the few named escapes apart, a character that is
drawn on its neighbour or not at all is written by its code point in braces.
-/

namespace SitePress.Literal

/-- Whether a character is written by its code point: it is drawn on its neighbour,
may be left out, or has no glyph. -/
def needsCodePoint (c : Char) : Bool :=
  CharacterClass.extendsGrapheme c && !CharacterClass.isSoundMark c ||
    CharacterClass.isIgnorable c || CharacterClass.isUnprintable c

/-- A character by its code point, without leading zeros. -/
def byCodePoint (c : Char) : Text :=
  ['\\', 'u', '\x7b'] ++ Hexadecimal.shortest c.toNat ++ ['\x7d']

/-- One character as it stands in a literal with the given delimiter; the quote
that does not delimit stands as it is. -/
def escape (delimiter c : Char) : Text :=
  if c = '\x00' then ['\\', '0']
  else if c = '\t' then ['\\', 't']
  else if c = '\r' then ['\\', 'r']
  else if c = '\n' then ['\\', 'n']
  else if c = '\\' ∨ c = delimiter then ['\\', c]
  else if needsCodePoint c then byCodePoint c
  else [c]

def ofChar (c : Char) : Text :=
  '\'' :: escape '\'' c ++ ['\'']

/-- A text between double quotes. -/
def ofText (t : Text) : Text :=
  '"' :: t.flatMap (escape '"') ++ ['"']

end SitePress.Literal
