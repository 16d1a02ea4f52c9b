import SitePress.Text.Basic

/-!
# Hexadecimal numbers

Code points are written in lower-case hexadecimal, either in a fixed number of
digits or in as few as possible.
-/

namespace SitePress.Hexadecimal

/-- The last `digits` hexadecimal digits of a number, leading zeros included. -/
def padded : Nat → Nat → Text
  | 0, _ => []
  | digits + 1, n => padded digits (n / 16) ++ [Nat.digitChar (n % 16)]

/-- A number in as few hexadecimal digits as possible. -/
def shortest (n : Nat) : Text :=
  Nat.toDigits 16 n

def digit? (c : Char) : Option Nat :=
  if c.isDigit then some (c.toNat - '0'.toNat)
  else if 'a' ≤ c ∧ c ≤ 'f' then some (c.toNat - 'a'.toNat + 10)
  else if 'A' ≤ c ∧ c ≤ 'F' then some (c.toNat - 'A'.toNat + 10)
  else none

/-- Reads exactly `digits` digits behind a number already read, and returns the
whole number with the text behind it. -/
def read? : Nat → Nat → Text → Option (Nat × Text)
  | 0, n, rest => some (n, rest)
  | _ + 1, _, [] => none
  | digits + 1, n, c :: rest => do read? digits (16 * n + (← digit? c)) rest

@[simp] theorem length_padded (digits n : Nat) : (padded digits n).length = digits := by
  induction digits generalizing n with
  | zero => rfl
  | succ digits ih => simp [padded, ih]

theorem length_read? {digits n m : Nat} {t rest : Text} (h : read? digits n t = some (m, rest)) :
    t.length = rest.length + digits := by
  induction digits generalizing n t with
  | zero => simp_all [read?]
  | succ digits ih =>
    cases t with
    | nil => simp [read?] at h
    | cons c t =>
      simp only [read?, Option.bind_eq_bind, Option.bind_eq_some_iff] at h
      obtain ⟨d, _, hd⟩ := h
      simp [ih hd, Nat.add_assoc]

end SitePress.Hexadecimal
