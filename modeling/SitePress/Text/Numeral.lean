import SitePress.Text.Basic

/-!
# Numerals

Decimal numbers inside a template.  Widths and precisions are bounded, and the
bound is tested while the digits are read: a run of digits is refused at the
first digit that takes the number past `limit`, so no run, however long, is ever
held as a large number.  The arithmetic is that of machine words, where a
product or a sum that does not fit has no value.
-/

namespace SitePress.Numeral

/-! ## Digits and values -/

/-- The decimal digits of a number, without leading zeros. -/
def ofNat (n : Nat) : Text :=
  Nat.toDigits 10 n

/-- The number that a run of decimal digits writes; leading zeros do not matter. -/
def value (digits : Text) : Nat :=
  Nat.ofDigitChars 10 digits 0

@[simp] theorem value_ofNat (n : Nat) : value (ofNat n) = n :=
  Nat.ofDigitChars_toDigits (by decide) (by decide)

theorem isDigit_of_mem_ofNat {n : Nat} {c : Char} (h : c ∈ ofNat n) : c.isDigit :=
  Nat.isDigit_of_mem_toDigits (by decide) (by decide) h

/-! ## Machine words -/

/-- The product of two words of `bits` bits, if it fits in a word. -/
def mul? (bits a b : Nat) : Option Nat :=
  if a * b < 1 <<< bits then some (a * b) else none

/-- The sum of two words of `bits` bits, if it fits in a word. -/
def add? (bits a b : Nat) : Option Nat :=
  if a + b < 1 <<< bits then some (a + b) else none

/-! ## Bounded numbers -/

/-- The largest width or precision: the largest signed number of 32 bits. -/
def limit : Nat := 2147483647

/-- The number written by the digits read so far and one digit more; `none` when
it is above `limit`. -/
def push? (bits n : Nat) (digit : Char) : Option Nat := do
  let shifted ← mul? bits n 10
  let m ← add? bits shifted (digit.toNat - '0'.toNat)
  if m ≤ limit then some m else none

/-- The number that a run of digits writes, computed in words of `bits` bits:
`some none` for an empty run, which writes no number, and `none` for a number
above `limit`. -/
def ofDigits? (bits : Nat) : Text → Option (Option Nat)
  | [] => some none
  | digits => (digits.foldlM (push? bits) 0).map some

end SitePress.Numeral
