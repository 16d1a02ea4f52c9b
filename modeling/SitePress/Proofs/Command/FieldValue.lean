import SitePress.Command.FieldValue
import SitePress.Proofs.Pattern.Grammar
import SitePress.Proofs.Text.Numeral
import SitePress.Proofs.Text.Run

/-!
# How values are written

A decimal number has a digit in front of its point or behind it, if there is a point, and an
exponent or none.  Other values are patterns, and as one every text can be given if it is quoted.
-/

namespace SitePress.FieldValue

variable {t : Text}

/-- A decimal number is written, with or without a point. -/
inductive DecimalWritten : Text → Prop
  | whole {whole behind : Text} (hwhole : ∀ c ∈ whole, c.isDigit) (hne : whole ≠ [])
    (hbehind : endsNumber behind) : DecimalWritten (whole ++ behind)
  | point {whole fraction behind : Text} (hwhole : ∀ c ∈ whole, c.isDigit)
    (hfraction : ∀ c ∈ fraction, c.isDigit) (hne : whole ++ fraction ≠ [])
    (hbehind : endsNumber behind) : DecimalWritten (whole ++ '.' :: (fraction ++ behind))

/-- The digits of a number stop where its exponent starts, and this is not a point. -/
theorem stop_of_endsNumber (h : endsNumber t) : ∀ c ∈ t.head?, ¬ c.isDigit ∧ c ≠ '.' := by
  cases t with
  | nil => simp
  | cons c exponent =>
    simp only [endsNumber, Bool.and_eq_true, Bool.or_eq_true, beq_iff_eq] at h
    intro d hd
    obtain rfl := Option.some.inj hd
    obtain ⟨rfl | rfl, -⟩ := h <;> decide

theorem isDecimal_of_point {whole fraction more behind : Text}
    (hwhole : LongestRun Char.isDigit t whole ('.' :: more))
    (hfraction : LongestRun Char.isDigit more fraction behind) :
    isDecimal t = (!(whole ++ fraction).isEmpty && endsNumber behind) := by
  simp [isDecimal, hwhole.takeWhile_eq, hwhole.dropWhile_eq, hfraction.takeWhile_eq,
    hfraction.dropWhile_eq]

theorem isDecimal_of_whole {whole behind : Text} (hwhole : LongestRun Char.isDigit t whole behind)
    (hpoint : behind.head? ≠ some '.') :
    isDecimal t = (!whole.isEmpty && endsNumber behind) := by
  simp [isDecimal, hwhole.takeWhile_eq, hwhole.dropWhile_eq, hpoint]

theorem isDecimal_iff : isDecimal t ↔ DecimalWritten t := by
  constructor
  · intro h
    obtain ⟨whole, behind, hwhole⟩ := LongestRun.exists_run Char.isDigit t
    rw [hwhole.split]
    by_cases hpoint : behind.head? = some '.'
    · obtain ⟨more, rfl⟩ : ∃ more, behind = '.' :: more := List.head?_eq_some_iff.1 hpoint
      have hfraction := LongestRun.takeWhile Char.isDigit more
      rw [isDecimal_of_point hwhole hfraction] at h
      simp only [Bool.and_eq_true, Bool.not_eq_true', List.isEmpty_eq_false_iff] at h
      rw [hfraction.split]
      exact .point hwhole.all hfraction.all h.1 h.2
    · rw [isDecimal_of_whole hwhole hpoint] at h
      simp only [Bool.and_eq_true, Bool.not_eq_true', List.isEmpty_eq_false_iff] at h
      exact .whole hwhole.all h.1 h.2
  · intro h
    cases h with
    | @whole whole behind hwhole hne hbehind =>
      have hrun : LongestRun Char.isDigit (whole ++ behind) whole behind :=
        ⟨rfl, hwhole, fun c hc => (stop_of_endsNumber hbehind c hc).1⟩
      rw [isDecimal_of_whole hrun fun hpoint => (stop_of_endsNumber hbehind '.' hpoint).2 rfl]
      simpa [hbehind] using hne
    | @point whole fraction behind hwhole hfraction hne hbehind =>
      have hrun : LongestRun Char.isDigit (whole ++ '.' :: (fraction ++ behind)) whole
          ('.' :: (fraction ++ behind)) := ⟨rfl, hwhole, by simp⟩
      have hrun' : LongestRun Char.isDigit (fraction ++ behind) fraction behind :=
        ⟨rfl, hfraction, fun c hc => (stop_of_endsNumber hbehind c hc).1⟩
      rw [isDecimal_of_point hrun hrun']
      simpa [hbehind, -List.append_eq_nil_iff] using hne

/-- As a pattern every text can be given. -/
theorem isReadable_quote (t : Text) : isReadable (Pattern.quote t) := by
  simp [isReadable, Pattern.isValid_quote]

end SitePress.FieldValue
