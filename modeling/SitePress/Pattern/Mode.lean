import SitePress.Text.CharacterClass.Word

/-!
# Modes of a pattern

How the signs of a pattern are read depends on the mode in force, which the pattern itself
can switch on its way.  Over characters, a pattern cannot ask for what takes a table: the
other case of a letter, the letters of words, or a property.  Over bytes it has these for
ASCII, but nothing in it may match a part of a character.

## Main definitions

* `Pattern.Mode` — how a pattern is read.
* `Mode.skip` — what is left out in front of a sign.
* `Mode.admits`, `Mode.admitsMember` — the characters that may stand for themselves.
-/

namespace SitePress.Pattern

/-- How a pattern is read, as far as it matters for what may stand in it. -/
structure Mode where
  ignoresCase : Bool
  /-- Whether characters are matched, and not bytes. -/
  overCharacters : Bool
  spaced : Bool
  deriving DecidableEq, Repr

namespace Mode

def start : Mode :=
  { ignoresCase := false, overCharacters := true, spaced := false }

/-! ## Flags -/

def isFlag (c : Char) : Bool :=
  c ∈ ['i', 'm', 's', 'U', 'u', 'R', 'x']

/-- The mode after a flag is switched; most flags change only what is matched. -/
def switch (mode : Mode) (flag : Char) (on : Bool) : Mode :=
  if flag = 'i' then { mode with ignoresCase := on }
  else if flag = 'u' then { mode with overCharacters := on }
  else if flag = 'x' then { mode with spaced := on }
  else mode

/-! ## Blanks -/

/-- A text without the blanks and comments in front of it; a comment goes from a number
sign to the end of the line. -/
def skipSpace (inComment : Bool) : Text → Text
  | [] => []
  | c :: rest =>
    if inComment then skipSpace (c != '\n') rest
    else if CharacterClass.isWhiteSpace c then skipSpace false rest
    else if c = '#' then skipSpace true rest
    else c :: rest

/-- A text from its next sign on. -/
def skip (mode : Mode) (t : Text) : Text :=
  if mode.spaced then skipSpace false t else t

/-- The character that decides whether a dash in front of a text makes a range.  Only
blanks and one number sign are left out on the way to it. -/
def peek (mode : Mode) (t : Text) : Option Char :=
  if mode.spaced then
    match t.dropWhile CharacterClass.isWhiteSpace with
    | '#' :: rest => (rest.dropWhile CharacterClass.isWhiteSpace).head?
    | rest => rest.head?
  else t.head?

/-! ## What a mode admits -/

/-- Whether a character may stand for itself; as a byte it may only where it is one. -/
def admits (mode : Mode) (c : Char) (isByte : Bool) : Bool :=
  if mode.overCharacters then !mode.ignoresCase else !(isByte && 0x80 ≤ c.toNat)

/-- Whether a character may stand for itself inside brackets. -/
def admitsMember (mode : Mode) (c : Char) : Bool :=
  if mode.overCharacters then !mode.ignoresCase else c.toNat < 0x80

/-- Whether all characters, or all but the named ones, may be asked for. -/
def admitsComplement (mode : Mode) : Bool :=
  mode.overCharacters

/-- Whether a class of ASCII characters, or its complement, may be asked for by name. -/
def admitsNamed (mode : Mode) (negated : Bool) : Bool :=
  if mode.overCharacters then !mode.ignoresCase else !negated

/-- Whether the digits, the blanks or the letters of words, or the complement of these,
may be asked for. -/
def admitsKind (mode : Mode) (negated : Bool) : Bool :=
  !mode.overCharacters && !negated

/-- Whether the ends of words may be asked for. -/
def admitsWordEdge (mode : Mode) : Bool :=
  !mode.overCharacters

end Mode

end SitePress.Pattern
