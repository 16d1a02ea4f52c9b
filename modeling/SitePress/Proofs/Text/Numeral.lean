import SitePress.Text.Numeral

/-!
# Bounded numbers are exact

The limit is tested after each digit, and the product and the sum of each step may
overflow the word.  Neither shows in the result: reading refuses a run of digits
exactly when the number it writes is above the limit, in words of any width that can
hold the limit.
-/

namespace SitePress.Numeral

theorem add?_eq_some {bits a b : Nat} (h : a + b < 1 <<< bits) : add? bits a b = some (a + b) :=
  if_pos h

/-! ## One digit -/

/-- A step refuses a digit exactly when it takes the number past the limit: what
overflows a word that can hold the limit is past the limit anyway. -/
theorem push?_eq {bits : Nat} (hbits : limit < 1 <<< bits) (n : Nat) (digit : Char) :
    push? bits n digit =
      if 10 * n + (digit.toNat - '0'.toNat) ≤ limit then
        some (10 * n + (digit.toNat - '0'.toNat)) else none := by
  simp only [push?, mul?, add?, Nat.mul_comm n 10, Option.bind_eq_bind]
  generalize digit.toNat - '0'.toNat = d
  by_cases hmul : 10 * n < 1 <<< bits
  · by_cases hadd : 10 * n + d < 1 <<< bits
    · simp [hmul, hadd]
    · have past : ¬ 10 * n + d ≤ limit := by omega
      simp [hmul, hadd, past]
  · have past : ¬ 10 * n + d ≤ limit := by omega
    simp [hmul, past]

/-! ## Runs of digits -/

/-- Further digits make a number no smaller. -/
theorem le_ofDigitChars (digits : Text) (n : Nat) : n ≤ Nat.ofDigitChars 10 digits n := by
  induction digits generalizing n with
  | nil => simp
  | cons d digits ih =>
    rw [Nat.ofDigitChars_cons]
    have := ih (10 * n + (d.toNat - '0'.toNat))
    omega

theorem value_le_value_append (digits more : Text) : value digits ≤ value (digits ++ more) := by
  rw [value, value, Nat.ofDigitChars_append]
  exact le_ofDigitChars more _

/-- Digits are taken up one by one for as long as the number written so far is not past
the limit, and a number once past it stays so. -/
theorem foldlM_push? {bits : Nat} (hbits : limit < 1 <<< bits) (digits : Text) {n : Nat}
    (hn : n ≤ limit) :
    digits.foldlM (push? bits) n =
      if Nat.ofDigitChars 10 digits n ≤ limit then some (Nat.ofDigitChars 10 digits n)
      else none := by
  induction digits generalizing n with
  | nil => simp [hn]
  | cons d digits ih =>
    rw [List.foldlM_cons, push?_eq hbits, Nat.ofDigitChars_cons]
    by_cases hd : 10 * n + (d.toNat - '0'.toNat) ≤ limit
    · rw [if_pos hd, Option.bind_eq_bind, Option.bind_some, ih hd]
    · have := le_ofDigitChars digits (10 * n + (d.toNat - '0'.toNat))
      rw [if_neg hd, if_neg (by omega)]
      rfl

/-- Digits are refused if and only if their value is above the limit; otherwise they write
that value, and no digits write no number. -/
theorem ofDigits?_eq {bits : Nat} (hbits : limit < 1 <<< bits) (digits : Text) :
    ofDigits? bits digits =
      if value digits ≤ limit then some (if digits = [] then none else some (value digits))
      else none := by
  cases digits with
  | nil => rfl
  | cons d digits =>
    rw [if_neg (List.cons_ne_nil d digits), value]
    simp only [ofDigits?, foldlM_push? hbits (d :: digits) (Nat.zero_le limit)]
    split <;> rfl

/-- Digits write a positive number if the first of them is not zero. -/
theorem value_pos {digits : Text} (hne : digits ≠ []) (hdigits : ∀ c ∈ digits, c.isDigit)
    (hhead : digits.head? ≠ some '0') : 0 < value digits := by
  cases digits with
  | nil => exact absurd rfl hne
  | cons d digits =>
    have hdigit : 48 ≤ d.toNat := by
      have := hdigits d List.mem_cons_self
      simp only [Char.isDigit, Bool.and_eq_true, decide_eq_true_eq] at this
      exact this.1
    have hzero : d.toNat ≠ 48 := fun h => hhead (congrArg some (Char.toNat_inj.1 h))
    have := le_ofDigitChars digits (10 * 0 + (d.toNat - '0'.toNat))
    rw [value, Nat.ofDigitChars_cons]
    have hvalue : 0 < 10 * 0 + (d.toNat - '0'.toNat) := by
      have : '0'.toNat = 48 := rfl
      omega
    omega

/-! ## Digits of numbers -/

theorem ofNat_ne_nil (n : Nat) : ofNat n ≠ [] :=
  Nat.toDigits_ne_nil

/-- The digits of a positive number have no zero in front. -/
theorem head?_ofNat {n : Nat} (hn : 0 < n) : (ofNat n).head? ≠ some '0' := by
  unfold ofNat
  induction n using Nat.strongRecOn with
  | _ n ih =>
    by_cases hlt : n < 10
    · rw [Nat.toDigits_of_lt_base hlt]
      simp only [List.head?_cons, ne_eq, Option.some.injEq, Nat.digitChar_eq_zero]
      omega
    · rw [Nat.toDigits_of_base_le (by decide) (by omega), List.head?_append]
      have hfront := ih (n / 10) (by omega) (by omega)
      cases hhead : (Nat.toDigits 10 (n / 10)).head? with
      | none => exact absurd (List.head?_eq_none_iff.1 hhead) Nat.toDigits_ne_nil
      | some c => simpa [hhead] using hfront

end SitePress.Numeral
