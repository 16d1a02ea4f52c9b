import SitePress.Proofs.Text.Numeral
import SitePress.Proofs.Text.Run
import SitePress.Template.Grammar

/-!
# Format specifications are read exactly

A scan splits a text into the parts of a format specification, each the longest run
of its alphabet, and it is the only way to do so.  A well-formed specification in
front of a conversion letter is therefore found again part by part: no part can take
characters from the next one, although a zero is a flag in front of a width and a
digit behind a point.

## Main definitions

* `FormatSpec.Longest` — the specification at the head of a text, said without a scan.
* `FormatSpec.TooBig` — the specifications with a number above `Numeral.limit`.
* `FormatSpec.Spelled` — specifications in the right letters, whatever their numbers are.
-/

namespace SitePress.FormatSpec

variable {t rest : Text} {spec : FormatSpec}

/-! ## Scanning -/

/-- The longest precision at the head of a text: a point with the digits behind it, or
nothing in front of any other character. -/
inductive LongestPrecision : Text → Option Text → Text → Prop
  | absent {t : Text} (h : ∀ c ∈ t.head?, c ≠ '.') : LongestPrecision t none t
  | present {t digits rest : Text} (h : LongestRun Char.isDigit t digits rest) :
    LongestPrecision ('.' :: t) (some digits) rest

/-- The text `t` starts with the parts of `spec`, one behind the other and each as long
as it can be, and `rest` is behind them. -/
inductive Longest (t : Text) (spec : FormatSpec) (rest : Text) : Prop
  | parts {behindFlags behindWidth behindPrecision : Text}
    (flags : LongestRun isFlag t spec.flags behindFlags)
    (width : LongestRun Char.isDigit behindFlags spec.width behindWidth)
    (precision : LongestPrecision behindWidth spec.precision behindPrecision)
    (lengthModifiers :
      LongestRun isLengthModifier behindPrecision spec.lengthModifiers rest)

theorem longestPrecision_scanPrecision (t : Text) :
    LongestPrecision t (scanPrecision t).1 (scanPrecision t).2 := by
  unfold scanPrecision
  split
  · exact .present (.takeWhile _ _)
  next hpoint =>
    refine .absent fun c hc => ?_
    rintro rfl
    obtain ⟨rest, rfl⟩ := List.head?_eq_some_iff.1 (Option.mem_def.1 hc)
    exact hpoint rest rfl

theorem LongestPrecision.scanPrecision_eq {precision : Option Text}
    (h : LongestPrecision t precision rest) : scanPrecision t = (precision, rest) := by
  cases h with
  | absent hpoint =>
    unfold scanPrecision
    split
    · exact absurd rfl (hpoint '.' rfl)
    · rfl
  | present hdigits => simp only [scanPrecision, hdigits.takeWhile_eq, hdigits.dropWhile_eq]

/-- A scan finds the longest parts. -/
theorem longest_scan (t : Text) : Longest t (scan t).1 (scan t).2 :=
  .parts (.takeWhile _ _) (.takeWhile _ _) (longestPrecision_scanPrecision _) (.takeWhile _ _)

/-- There is only one way to take longest parts. -/
theorem Longest.scan_eq (h : Longest t spec rest) : scan t = (spec, rest) := by
  obtain ⟨flags, width, precision, lengthModifiers⟩ := h
  simp only [scan, flags.takeWhile_eq, flags.dropWhile_eq, width.takeWhile_eq,
    width.dropWhile_eq, precision.scanPrecision_eq, lengthModifiers.takeWhile_eq,
    lengthModifiers.dropWhile_eq]

theorem Longest.split (h : Longest t spec rest) : t = spec.text ++ rest := by
  have := text_append_scan t
  rw [h.scan_eq] at this
  exact this.symm

/-! ## Numbers -/

/-- The width or the precision is above the limit. -/
def TooBig (spec : FormatSpec) : Prop :=
  Numeral.limit < Numeral.value spec.width ∨
    ∃ digits ∈ spec.precision, Numeral.limit < Numeral.value digits

private theorem limit_lt_word : Numeral.limit < 1 <<< wordBits := by
  decide

theorem layout?_eq_none (h : spec.TooBig) : spec.layout? = none := by
  obtain ⟨flags, width, precision, lengthModifiers⟩ := spec
  simp only [layout?, Numeral.ofDigits?_eq limit_lt_word]
  by_cases hwidth : Numeral.value width ≤ Numeral.limit
  · obtain h | ⟨digits, rfl, h⟩ := h
    · exact absurd hwidth (Nat.not_le.2 h)
    · simp [hwidth, Nat.not_le.2 h]
  · simp [hwidth]

theorem layout?_eq_some (h : ¬ spec.TooBig) : spec.layout? = some spec.layout := by
  obtain ⟨flags, width, precision, lengthModifiers⟩ := spec
  simp only [TooBig, not_or, not_exists, not_and, Nat.not_lt] at h
  obtain ⟨hwidth, hprecision⟩ := h
  simp only [layout?, layout, Numeral.ofDigits?_eq limit_lt_word, if_pos hwidth]
  cases precision with
  | none => rfl
  | some digits =>
    have hdigits := hprecision digits rfl
    by_cases hnil : digits = []
    · subst hnil
      rfl
    · simp [hdigits, hnil]

/-! ## Well-formed specifications -/

/-- The parts of a specification are in their alphabets, and the width has no zero in front;
the numbers may be too big. -/
structure Spelled (spec : FormatSpec) : Prop where
  flags : ∀ c ∈ spec.flags, isFlag c
  width : ∀ c ∈ spec.width, c.isDigit
  width_head : spec.width.head? ≠ some '0'
  precision : ∀ digits ∈ spec.precision, ∀ c ∈ digits, c.isDigit
  lengthModifiers : ∀ c ∈ spec.lengthModifiers, isLengthModifier c

theorem WellFormed.spelled (h : spec.WellFormed) : spec.Spelled :=
  ⟨h.flags, h.width, h.width_head, h.precision, h.lengthModifiers⟩

theorem Spelled.wellFormed (h : spec.Spelled) (hsmall : ¬ spec.TooBig) : spec.WellFormed := by
  simp only [TooBig, not_or, not_exists, not_and, Nat.not_lt] at hsmall
  exact ⟨h.flags, h.width, h.width_head, hsmall.1, h.precision, hsmall.2, h.lengthModifiers⟩

/-- What has been read is of the alphabets: a zero in front of the width would have been read
as a flag. -/
theorem Longest.spelled (h : Longest t spec rest) : spec.Spelled := by
  obtain ⟨flags, width, precision, lengthModifiers⟩ := h
  refine ⟨flags.all, width.all, ?_, ?_, lengthModifiers.all⟩
  · intro hzero
    refine flags.stop '0' ?_ rfl
    rw [width.split, List.head?_append, hzero]
    rfl
  · intro digits hdigits
    rw [Option.mem_def.1 hdigits] at precision
    cases precision with
    | present run => exact run.all

theorem Longest.wellFormed (h : Longest t spec rest) (hsmall : ¬ spec.TooBig) :
    spec.WellFormed :=
  h.spelled.wellFormed hsmall

theorem WellFormed.not_tooBig (h : spec.WellFormed) : ¬ spec.TooBig := by
  rintro (hwidth | ⟨digits, hdigits, hprecision⟩)
  · exact Nat.not_le.2 hwidth h.width_le
  · exact Nat.not_le.2 hprecision (h.precision_le digits hdigits)

private theorem eq_zero_of_isFlag {c : Char} (hflag : isFlag c) (hdigit : c.isDigit) :
    c = '0' := by
  simp only [isFlag, List.mem_cons, List.not_mem_nil, or_false, decide_eq_true_eq] at hflag
  rcases hflag with rfl | rfl | rfl | rfl | rfl
  · exact absurd hdigit (by decide)
  · rfl
  · exact absurd hdigit (by decide)
  · exact absurd hdigit (by decide)
  · exact absurd hdigit (by decide)

private theorem of_isLengthModifier {c : Char} (h : isLengthModifier c) :
    ¬ isFlag c ∧ ¬ c.isDigit ∧ c ≠ '.' := by
  simp only [isLengthModifier, List.mem_cons, List.not_mem_nil, or_false,
    decide_eq_true_eq] at h
  rcases h with rfl | rfl | rfl <;> decide

/-- A conversion letter goes on with no part of a specification. -/
private theorem not_part_letter (conversion : Conversion) :
    ¬ isLengthModifier conversion.letter ∧ ¬ isFlag conversion.letter ∧
      ¬ conversion.letter.isDigit ∧ conversion.letter ≠ '.' := by
  cases conversion <;> decide

private theorem forall_head?_append {P : Char → Prop} {front behind : Text}
    (hfront : ∀ c ∈ front.head?, P c) (hbehind : ∀ c ∈ behind.head?, P c) :
    ∀ c ∈ (front ++ behind).head?, P c := by
  cases front with
  | nil => exact hbehind
  | cons d front => exact hfront

/-- At the head of the length modifiers and a conversion letter, no earlier part goes on. -/
private theorem head_lengthModifiers {modifiers : Text} (h : ∀ c ∈ modifiers, isLengthModifier c)
    (conversion : Conversion) (rest : Text) :
    ∀ c ∈ (modifiers ++ conversion.letter :: rest).head?,
      ¬ isFlag c ∧ ¬ c.isDigit ∧ c ≠ '.' := by
  apply forall_head?_append
  · intro c hc
    exact of_isLengthModifier (h c (List.mem_of_mem_head? hc))
  · intro c hc
    cases hc
    exact (not_part_letter conversion).2

private theorem head_precisionText {behind : Text}
    (hbehind : ∀ c ∈ behind.head?, ¬ isFlag c ∧ ¬ c.isDigit ∧ c ≠ '.')
    (precision : Option Text) :
    ∀ c ∈ (precisionText precision ++ behind).head?, ¬ isFlag c ∧ ¬ c.isDigit := by
  apply forall_head?_append
  · intro c hc
    cases precision with
    | none => cases hc
    | some digits =>
      cases hc
      decide
  · intro c hc
    exact ⟨(hbehind c hc).1, (hbehind c hc).2.1⟩

private theorem head_width {width behind : Text} (hwidth : ∀ c ∈ width, c.isDigit)
    (hhead : width.head? ≠ some '0') (hbehind : ∀ c ∈ behind.head?, ¬ isFlag c ∧ ¬ c.isDigit) :
    ∀ c ∈ (width ++ behind).head?, ¬ isFlag c := by
  apply forall_head?_append
  · intro c hc hflag
    obtain rfl := eq_zero_of_isFlag hflag (hwidth c (List.mem_of_mem_head? hc))
    exact hhead hc
  · intro c hc
    exact (hbehind c hc).1

private theorem longestPrecision_text {precision : Option Text} {behind : Text}
    (h : ∀ digits ∈ precision, ∀ c ∈ digits, c.isDigit)
    (hbehind : ∀ c ∈ behind.head?, ¬ isFlag c ∧ ¬ c.isDigit ∧ c ≠ '.') :
    LongestPrecision (precisionText precision ++ behind) precision behind := by
  cases precision with
  | none => exact .absent fun c hc => (hbehind c hc).2.2
  | some digits => exact .present ⟨rfl, h digits rfl, fun c hc => (hbehind c hc).2.1⟩

/-- In front of a conversion letter, each part of a specification is as long as it can be. -/
theorem Spelled.longest (h : spec.Spelled) (conversion : Conversion) (rest : Text) :
    Longest (spec.text ++ conversion.letter :: rest) spec (conversion.letter :: rest) := by
  have hmodifiers := head_lengthModifiers h.lengthModifiers conversion rest
  have hprecision := head_precisionText hmodifiers spec.precision
  have hwidth := head_width h.width h.width_head hprecision
  simp only [text, List.append_assoc]
  refine .parts ⟨rfl, h.flags, hwidth⟩ ⟨rfl, h.width, fun c hc => (hprecision c hc).2⟩
    (longestPrecision_text h.precision hmodifiers) ⟨rfl, h.lengthModifiers, ?_⟩
  intro c hc
  cases hc
  exact (not_part_letter conversion).1

theorem WellFormed.longest (h : spec.WellFormed) (conversion : Conversion) (rest : Text) :
    Longest (spec.text ++ conversion.letter :: rest) spec (conversion.letter :: rest) :=
  h.spelled.longest conversion rest

/-! ## More text behind a specification -/

theorem LongestPrecision.ne_nil {precision : Option Text}
    (h : LongestPrecision t precision rest) (hrest : rest ≠ []) : t ≠ [] := by
  cases h with
  | absent => exact hrest
  | present => exact List.cons_ne_nil _ _

theorem LongestPrecision.append {precision : Option Text}
    (h : LongestPrecision t precision rest) (hrest : rest ≠ []) (more : Text) :
    LongestPrecision (t ++ more) precision (rest ++ more) := by
  cases h with
  | absent hpoint =>
    cases t with
    | nil => exact absurd rfl hrest
    | cons c t => exact .absent hpoint
  | present hdigits => exact .present (hdigits.append hrest more)

/-- A specification that was stopped by a character stays what it is when more text follows. -/
theorem Longest.append (h : Longest t spec rest) (hrest : rest ≠ []) (more : Text) :
    Longest (t ++ more) spec (rest ++ more) := by
  obtain ⟨flags, width, precision, lengthModifiers⟩ := h
  have hprecision := lengthModifiers.ne_nil hrest
  have hwidth := precision.ne_nil hprecision
  have hflags := width.ne_nil hwidth
  exact .parts (flags.append hflags more) (width.append hwidth more)
    (precision.append hprecision more) (lengthModifiers.append hrest more)

/-- A number that is too big stays too big when more text follows, even when further digits
do. -/
theorem Longest.tooBig_append (h : Longest t spec rest) (hbig : spec.TooBig) (more : Text) :
    ∃ longer behind, Longest (t ++ more) longer behind ∧ longer.TooBig := by
  obtain ⟨flags, width, precision, lengthModifiers⟩ := h
  refine ⟨_, _, longest_scan (t ++ more), ?_⟩
  -- a number that is too big has digits, and those stop the parts in front of it
  obtain hbig | ⟨digits, hdigits, hbig⟩ := hbig
  · have hne : spec.width ≠ [] := by
      intro hnil
      rw [hnil] at hbig
      exact absurd hbig (by decide)
    have hflags := flags.append (width.split ▸ List.append_ne_nil_of_left_ne_nil hne _) more
    left
    simp only [scan, hflags.dropWhile_eq, width.takeWhile_append]
    exact Nat.lt_of_lt_of_le hbig (Numeral.value_le_value_append _ _)
  · rw [Option.mem_def.1 hdigits] at precision
    cases precision with
    | @present behind _ _ run =>
      have hpoint : '.' :: behind ≠ [] := List.cons_ne_nil _ _
      have hflags := flags.append (width.ne_nil hpoint) more
      have hwidth := width.append hpoint more
      right
      refine ⟨(behind ++ more).takeWhile Char.isDigit, ?_, ?_⟩
      · simp only [scan, hflags.dropWhile_eq, hwidth.dropWhile_eq]
        rfl
      · rw [run.takeWhile_append]
        exact Nat.lt_of_lt_of_le hbig (Numeral.value_le_value_append _ _)

end SitePress.FormatSpec
