import SitePress.Proofs.Template.FormatSpec

/-!
# Numbers read digit by digit

A reader that goes over the characters once takes digits up one by one.  It gives up at the first
that makes the number too big, or a product or a sum that does not fit in its word.  Nothing of
this shows: it gives up exactly on the runs of digits whose value is above the limit, and
otherwise it has gone to the end of the run.
-/

namespace SitePress

namespace Numeral

variable {bits : Nat} {t run rest : Text}

/-- Reads digits behind those that have written `number`, if there have been any, up to the
first character that is no digit: the number that all of them write, and the text that is left.
No result as soon as the number is above `limit`, or does not fit in a word of `bits` bits. -/
def read? (bits : Nat) : Option Nat → Text → Option (Option Nat × Text)
  | number, [] => some (number, [])
  | number, c :: rest =>
    if c.isDigit then (push? bits (number.getD 0) c).bind fun n => read? bits (some n) rest
    else some (number, c :: rest)

/-! ## Runs of digits -/

/-- Behind digits, a reader goes on to the end of the run. -/
theorem read?_some (bits n : Nat) (t : Text) :
    read? bits (some n) t =
      ((t.takeWhile Char.isDigit).foldlM (push? bits) n).map fun m =>
        (some m, t.dropWhile Char.isDigit) := by
  induction t generalizing n with
  | nil => rfl
  | cons c t ih =>
    by_cases hc : c.isDigit
    · rw [read?, if_pos hc, List.takeWhile_cons_of_pos hc, List.dropWhile_cons_of_pos hc,
        List.foldlM_cons, Option.bind_eq_bind, Option.map_bind]
      exact Option.bind_congr fun m _ => ih m
    · rw [read?, if_neg hc, List.takeWhile_cons_of_neg hc, List.dropWhile_cons_of_neg hc]
      rfl

theorem ofDigits?_cons (bits : Nat) (c : Char) (digits : Text) :
    ofDigits? bits (c :: digits) = ((c :: digits).foldlM (push? bits) 0).map some := rfl

/-- What is read is the number that the longest run of digits writes, as far as a word of this
width can tell, and what is left is the text behind the run. -/
theorem read?_none_eq_ofDigits? (bits : Nat) (t : Text) :
    read? bits none t =
      (ofDigits? bits (t.takeWhile Char.isDigit)).map fun number =>
        (number, t.dropWhile Char.isDigit) := by
  cases t with
  | nil => rfl
  | cons c t =>
    by_cases hc : c.isDigit
    · rw [List.takeWhile_cons_of_pos hc, List.dropWhile_cons_of_pos hc, ofDigits?_cons,
        List.foldlM_cons, Option.map_map, Option.bind_eq_bind, Option.map_bind, read?, if_pos hc]
      exact Option.bind_congr fun n _ => read?_some bits n t
    · rw [read?, if_neg hc, List.takeWhile_cons_of_neg hc, List.dropWhile_cons_of_neg hc]
      rfl

/-- In a word that can hold the limit, a run of digits is read as its value, or is too big. -/
theorem read?_eq (hbits : limit < 1 <<< bits) (h : LongestRun Char.isDigit t run rest) :
    read? bits none t =
      if value run ≤ limit then some (if run = [] then none else some (value run), rest)
      else none := by
  rw [read?_none_eq_ofDigits?, h.takeWhile_eq, h.dropWhile_eq, ofDigits?_eq hbits]
  split <;> rfl

theorem limit_lt_of_le (hbits : 31 ≤ bits) : limit < 1 <<< bits := by
  have hword : (2 : Nat) ^ 31 ≤ 2 ^ bits := Nat.pow_le_pow_right (by decide) hbits
  rw [Nat.one_shiftLeft]
  exact Nat.lt_of_lt_of_le (by decide) hword

theorem value_replicate_append (zeros : Nat) (digits : Text) :
    value (List.replicate zeros '0' ++ digits) = value digits := by
  induction zeros with
  | zero => rfl
  | succ zeros ih => exact ih

theorem longestRun_digits_append {digits : Text} (hdigits : ∀ c ∈ digits, c.isDigit)
    (h : LongestRun Char.isDigit t run rest) :
    LongestRun Char.isDigit (digits ++ t) (digits ++ run) rest where
  split := by rw [h.split, List.append_assoc]
  all := by
    intro c hc
    obtain hc | hc := List.mem_append.1 hc
    · exact hdigits c hc
    · exact h.all c hc
  stop := h.stop

end Numeral

/-! ## The numbers of a specification -/

namespace FormatSpec

/-- The precision at the head of a text, its digits read one by one. -/
def readPrecision? : Text → Option (Option Nat)
  | '.' :: rest => (Numeral.read? wordBits none rest).map fun found => some (found.1.getD 0)
  | _ => some none

/-- The layout that the specification at the head of a text asks for, its numbers read one
behind the other. -/
def readLayout? (t : Text) : Option Layout := do
  let (width, behindWidth) ← Numeral.read? wordBits none (t.dropWhile isFlag)
  let precision ← readPrecision? behindWidth
  some { leftAlign := '-' ∈ t.takeWhile isFlag, width, precision }

theorem readPrecision?_eq (t : Text) :
    readPrecision? t =
      match (scanPrecision t).1 with
      | none => some none
      | some digits => (Numeral.ofDigits? wordBits digits).map fun n => some (n.getD 0) := by
  cases t with
  | nil => rfl
  | cons c t =>
    by_cases hc : c = '.'
    · subst hc
      rw [readPrecision?, Numeral.read?_none_eq_ofDigits?, Option.map_map]
      rfl
    · simp [readPrecision?, scanPrecision, hc]

/-- To take a specification apart and then read its numbers is to read them digit by digit. -/
theorem layout?_scan (t : Text) : (scan t).1.layout? = readLayout? t := by
  unfold readLayout? layout?
  rw [Numeral.read?_none_eq_ofDigits?]
  simp only [scan]
  cases Numeral.ofDigits? wordBits ((t.dropWhile isFlag).takeWhile Char.isDigit) with
  | none => rfl
  | some width =>
    simp only [Option.map_some, Option.bind_eq_bind, Option.bind_some, readPrecision?_eq]
    cases (scanPrecision ((t.dropWhile isFlag).dropWhile Char.isDigit)).1 <;> rfl

end FormatSpec

namespace Numeral

variable {bits : Nat} {t run rest : Text}

/-- In words of 32 or 64 bits, and in all that are not narrower than 31, the reader goes to the
end of the longest run of digits if it has a result.  It reads no number if and only if there
are no digits, their value if and only if there are digits and it is within the limit, and has
no result if and only if their value is above the limit; so zeros in front do not matter.  The
numbers of a format specification are what this reader makes of them. -/
theorem read?_exact_at_limit (hbits : 31 ≤ bits) (h : LongestRun Char.isDigit t run rest) :
    (∀ number behind, read? bits none t = some (number, behind) → behind = rest) ∧
    (read? bits none t = some (none, rest) ↔ run = []) ∧
    (∀ n, read? bits none t = some (some n, rest) ↔
      run ≠ [] ∧ value run = n ∧ n ≤ 2147483647) ∧
    (read? bits none t = none ↔ 2147483647 < value run) ∧
    (∀ other, 31 ≤ other → read? other none t = read? bits none t) ∧
    (run ≠ [] → ∀ zeros, read? bits none (List.replicate zeros '0' ++ t) = read? bits none t) ∧
    ∀ spec, (FormatSpec.scan spec).1.layout? = FormatSpec.readLayout? spec := by
  have hread := read?_eq (limit_lt_of_le hbits) h
  have hlimit : limit = 2147483647 := rfl
  refine ⟨?_, ?_, fun n => ?_, ?_, fun other hother => ?_, fun hrun zeros => ?_,
    FormatSpec.layout?_scan⟩
  · intro number behind hsome
    rw [hread] at hsome
    split at hsome
    · exact (Prod.mk.inj (Option.some.inj hsome)).2.symm
    · contradiction
  · rw [hread]
    by_cases hrun : run = []
    · subst hrun
      exact iff_of_true rfl rfl
    · simp [hrun]
  · rw [hread, hlimit]
    by_cases hrun : run = []
    · simp [hrun]
    · by_cases hvalue : value run ≤ 2147483647
      · simp only [hvalue, hrun, if_true, if_false, Option.some.injEq, Prod.mk.injEq, and_true,
          ne_eq, not_false_eq_true, true_and]
        constructor
        · rintro rfl
          exact ⟨rfl, hvalue⟩
        · exact fun hn => hn.1
      · simp only [hvalue, if_false, reduceCtorEq, false_iff]
        rintro ⟨-, rfl, hn⟩
        exact hvalue hn
  · rw [hread, hlimit]
    split
    next hvalue => exact iff_of_false (Option.some_ne_none _) (Nat.not_lt.2 hvalue)
    next hvalue => exact iff_of_true rfl (Nat.not_le.1 hvalue)
  · rw [hread, read?_eq (limit_lt_of_le hother) h]
  · have hzeros : ∀ c ∈ List.replicate zeros '0', c.isDigit := by
      intro c hc
      rw [(List.mem_replicate.1 hc).2]
      rfl
    have hne : List.replicate zeros '0' ++ run ≠ [] := List.append_ne_nil_of_right_ne_nil _ hrun
    rw [hread, read?_eq (limit_lt_of_le hbits) (longestRun_digits_append hzeros h),
      value_replicate_append, if_neg hrun, if_neg hne]

/-- With three zeros in front, the limit is read in words of 32 and of 64 bits, and a number
one above it is not, whatever stands behind it; nor is one that overflows the shorter word. -/
theorem read?_exact_at_limit_zeros :
    LongestRun Char.isDigit "2147483647hs".toList "2147483647".toList "hs".toList ∧
    read? 32 none "0002147483647hs".toList = some (some 2147483647, "hs".toList) ∧
    read? 64 none "2147483647hs".toList = some (some 2147483647, "hs".toList) ∧
    LongestRun Char.isDigit "2147483648".toList "2147483648".toList [] ∧
    read? 32 none "2147483648".toList = none ∧
    LongestRun Char.isDigit "99999999999é".toList "99999999999".toList "é".toList ∧
    read? 32 none "99999999999é".toList = none := by
  have hlimit : LongestRun Char.isDigit "2147483647hs".toList "2147483647".toList "hs".toList :=
    .takeWhile Char.isDigit "2147483647hs".toList
  have habove : LongestRun Char.isDigit "2147483648".toList "2147483648".toList [] :=
    .takeWhile Char.isDigit "2147483648".toList
  have hlong : LongestRun Char.isDigit "99999999999é".toList "99999999999".toList "é".toList :=
    .takeWhile Char.isDigit "99999999999é".toList
  obtain ⟨-, -, hvalue, -, hwords, hzeros, -⟩ :=
    read?_exact_at_limit (show 31 ≤ 32 by decide) hlimit
  obtain ⟨-, -, -, hoverflow, -⟩ := read?_exact_at_limit (show 31 ≤ 32 by decide) habove
  obtain ⟨-, -, -, hfar, -⟩ := read?_exact_at_limit (show 31 ≤ 32 by decide) hlong
  have hread := (hvalue 2147483647).2 ⟨by decide, by decide, by decide⟩
  exact ⟨hlimit, (hzeros (by decide) 3).trans hread, (hwords 64 (by decide)).trans hread, habove,
    hoverflow.2 (by decide), hlong, hfar.2 (by decide)⟩

end Numeral

end SitePress
