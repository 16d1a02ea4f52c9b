import SitePress.Pattern.Mode
import SitePress.Text.Hexadecimal

/-!
# Escapes in patterns

Behind a backslash a sign stands for itself, and a letter for something else: a
control character, a character by its code point, a kind of characters, or a place.
Digits and letters without a meaning are refused.
-/

namespace SitePress.Pattern

/-- What an escape stands for. -/
inductive Escape
  /-- A character, which is written as a byte if by two digits. -/
  | character (c : Char) (isByte : Bool)
  /-- The digits, the blanks or the letters of words, or all other characters. -/
  | kind (negated : Bool)
  | edge
  /-- A place at the edge of a word, or any other. -/
  | wordEdge
  deriving DecidableEq, Repr

namespace Escape

/-- The number that `digits` hexadecimal digits write behind those of `value`, and the
text behind them. -/
def number? (mode : Mode) : Nat → Nat → Text → Option (Nat × Text)
  | 0, value, t => some (value, t)
  | digits + 1, value, t =>
    match mode.skip t with
    | [] => none
    | c :: rest => do number? mode digits (16 * value + (← Hexadecimal.digit? c)) rest

/-- The character of the code point that `digits` hexadecimal digits write. -/
def byCodePoint? (mode : Mode) (digits : Nat) (t : Text) : Option (Escape × Text) := do
  let (value, rest) ← number? mode digits 0 t
  if value.isValidChar then some (.character (Char.ofNat value) (digits == 2), rest) else none

def control? (c : Char) : Option Char :=
  if c = 'a' then some '\x07'
  else if c = 'f' then some '\x0c'
  else if c = 't' then some '\t'
  else if c = 'n' then some '\n'
  else if c = 'r' then some '\r'
  else if c = 'v' then some '\x0b'
  else none

/-- Whether a character behind a backslash stands for itself. -/
def isPlain (c : Char) : Bool :=
  c.toNat < 0x80 && !c.isAlphanum && c != '<' && c != '>'

/-- The escape behind a backslash, and the text behind the escape. -/
def read? (mode : Mode) : Text → Option (Escape × Text)
  | [] => none
  | c :: rest =>
    if c = 'x' then byCodePoint? mode 2 rest
    else if c = 'u' then byCodePoint? mode 4 rest
    else if c = 'U' then byCodePoint? mode 8 rest
    else if c ∈ ['d', 's', 'w'] then some (.kind false, rest)
    else if c ∈ ['D', 'S', 'W'] then some (.kind true, rest)
    else if c ∈ ['A', 'z'] then some (.edge, rest)
    else if c ∈ ['b', 'B', '<', '>'] then some (.wordEdge, rest)
    else if isPlain c then some (.character c false, rest)
    else (control? c).map fun c => (.character c false, rest)

end Escape

end SitePress.Pattern
