import SitePress.Text.Hexadecimal

/-!
# Quoted values

A value is quoted by a delimiter on both sides and a backslash in front of
whatever could be mistaken: backslashes, the delimiter itself, and control
characters, which are written by name or by code point.  In its ASCII form every
character beyond ASCII is written by code point as well.  The delimiter is the single
quote unless the value holds single quotes and no double quote.

## Main definitions

* `Quoted.encode` — the quoted form of a value.
* `Quoted.decode?` — the value that a quoted form at the head of a text stands for,
  and the text behind it.
-/

namespace SitePress.Quoted

/-! ## Writing -/

/-- Whether a character is one of the two blocks of control characters. -/
def isControl (c : Char) : Bool :=
  c.toNat < 0x20 || (0x7f ≤ c.toNat && c.toNat < 0xa0)

def isBeyondAscii (c : Char) : Bool :=
  0x80 ≤ c.toNat

/-- The quote character on both sides of a value. -/
def delimiter (value : Text) : Char :=
  if '\'' ∈ value ∧ '"' ∉ value then '"' else '\''

/-- A character by its code point, in the narrowest of the three forms that hold it. -/
def byCodePoint (c : Char) : Text :=
  if c.toNat < 0x100 then '\\' :: 'x' :: Hexadecimal.padded 2 c.toNat
  else if c.toNat < 0x10000 then '\\' :: 'u' :: Hexadecimal.padded 4 c.toNat
  else '\\' :: 'U' :: Hexadecimal.padded 8 c.toNat

/-- One character of a value, as it stands between two delimiters. -/
def escape (ascii : Bool) (delimiter c : Char) : Text :=
  if c = '\\' then ['\\', '\\']
  else if c = '\n' then ['\\', 'n']
  else if c = '\r' then ['\\', 'r']
  else if c = '\t' then ['\\', 't']
  else if c = delimiter then ['\\', c]
  else if isControl c || (ascii && isBeyondAscii c) then byCodePoint c
  else [c]

/-- The quoted form of a value, in ASCII alone if `ascii` is set. -/
def encode (ascii : Bool) (value : Text) : Text :=
  delimiter value :: value.flatMap (escape ascii (delimiter value)) ++ [delimiter value]

/-! ## Reading -/

def ofCodePoint? (n : Nat) : Option Char :=
  if n.isValidChar then some (Char.ofNat n) else none

/-- Reads a code point of so many hexadecimal digits, and returns the text behind it. -/
def readCodePoint? (digits : Nat) (rest : Text) : Option (Char × Text) := do
  let (n, rest) ← Hexadecimal.read? digits 0 rest
  some (← ofCodePoint? n, rest)

/-- The character that a backslash and one character stand for. -/
def named? (c : Char) : Option Char :=
  if c = '\\' ∨ c = '\'' ∨ c = '"' then some c
  else if c = 'n' then some '\n'
  else if c = 'r' then some '\r'
  else if c = 't' then some '\t'
  else none

/-- How many digits follow a backslash and this character. -/
def codePointDigits? (c : Char) : Option Nat :=
  if c = 'x' then some 2
  else if c = 'u' then some 4
  else if c = 'U' then some 8
  else none

/-- Reads what follows a backslash: the character meant, and the text behind it. -/
def unescape? : Text → Option (Char × Text)
  | [] => none
  | c :: rest =>
    match named? c with
    | some meant => some (meant, rest)
    | none => (codePointDigits? c).bind fun digits => readCodePoint? digits rest

theorem length_readCodePoint? {digits : Nat} {t rest : Text} {c : Char}
    (h : readCodePoint? digits t = some (c, rest)) : rest.length ≤ t.length := by
  simp only [readCodePoint?, Option.bind_eq_bind, Option.bind_eq_some_iff, Option.some.injEq,
    Prod.mk.injEq, Prod.exists] at h
  obtain ⟨n, r, hr, _, _, _, rfl⟩ := h
  have := Hexadecimal.length_read? hr
  omega

theorem length_unescape? {t rest : Text} {c : Char} (h : unescape? t = some (c, rest)) :
    rest.length < t.length := by
  cases t with
  | nil => simp [unescape?] at h
  | cons d t =>
    have shorter : rest.length ≤ t.length := by
      simp only [unescape?] at h
      split at h
      · simp_all
      · obtain ⟨digits, _, hread⟩ := Option.bind_eq_some_iff.1 h
        exact length_readCodePoint? hread
    exact Nat.lt_succ_of_le shorter

/-- Reads up to the first delimiter that no backslash escapes: the characters meant,
and the text behind that delimiter. -/
def decodeBody? (delimiter : Char) : Text → Option (Text × Text)
  | [] => none
  | c :: rest =>
    if c = delimiter then some ([], rest)
    else if c = '\\' then
      match h : unescape? rest with
      | none => none
      | some (meant, rest') =>
        have := length_unescape? h
        (decodeBody? delimiter rest').map fun (value, behind) => (meant :: value, behind)
    else (decodeBody? delimiter rest).map fun (value, behind) => (c :: value, behind)
termination_by t => t.length

/-- The value that the quoted form at the head of a text stands for, and the text behind
the form; `none` when no quoted form stands there. -/
def decode? : Text → Option (Text × Text)
  | [] => none
  | c :: rest => if c = '\'' ∨ c = '"' then decodeBody? c rest else none

end SitePress.Quoted
