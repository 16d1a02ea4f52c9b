import Mathlib
import SitePress.Proofs.Template.Concatenation

/-!
# Markers that say the same

Much of what a marker may say has no effect: all flags but one, how often that one is given,
zeros in front of the digits of a precision, and length modifiers.  Of two markers that
differ only in these parts one can be put in the place of the other anywhere in a text.
-/

namespace SitePress

namespace Marker

variable {marker other : Marker} {a b : Text} {first : Template}

/-- The key is balanced and the parts of the format specification are in their alphabets; the
numbers may be too big. -/
structure Spelled (marker : Marker) : Prop where
  key : Key.Balanced marker.key
  format : marker.format.Spelled

/-- Two markers differ in ignored parts only: they have the same key, the same digits of the
width and the same letter, both or neither align to the left, and both have no precision or
both have precisions of one value, which is zero for a point without digits. -/
structure SaysSame (marker other : Marker) : Prop where
  key : marker.key = other.key
  leftAlign : '-' ∈ marker.format.flags ↔ '-' ∈ other.format.flags
  width : marker.format.width = other.format.width
  precision : marker.format.precision.map Numeral.value = other.format.precision.map Numeral.value
  conversion : marker.conversion = other.conversion

namespace SaysSame

theorem symm (h : marker.SaysSame other) : other.SaysSame marker :=
  ⟨h.key.symm, h.leftAlign.symm, h.width.symm, h.precision.symm, h.conversion.symm⟩

theorem placeholder_eq (h : marker.SaysSame other) : marker.placeholder = other.placeholder := by
  simp only [placeholder, FormatSpec.layout, h.key, h.leftAlign, h.width, h.precision, h.conversion]

theorem tooBig (h : marker.SaysSame other) (hbig : marker.format.TooBig) :
    other.format.TooBig := by
  obtain hwidth | ⟨digits, hdigits, hprecision⟩ := hbig
  · exact .inl (h.width ▸ hwidth)
  · have hvalue := h.precision
    rw [Option.mem_def.1 hdigits, Option.map_some] at hvalue
    obtain ⟨others, hothers, hsame⟩ := Option.map_eq_some_iff.1 hvalue.symm
    exact .inr ⟨others, hothers, hsame ▸ hprecision⟩

end SaysSame

/-! ## One marker in a text -/

namespace Spelled

/-- A marker with a number that is too big is refused, whatever stands behind it. -/
theorem parse_tooBig (h : marker.Spelled) (ha : Template.parse a = .ok first)
    (hbig : marker.format.TooBig) (b : Text) :
    Template.parse (a ++ marker.text ++ b) =
      .error { offset := Text.utf8Size a, fault := .tooBig } := by
  have hfaulty := Faulty.tooBig h.key (h.format.longest marker.conversion b) hbig
  rw [List.append_assoc, text_append]
  exact parse_append_faulty ⟨first, ha⟩ hfaulty

theorem wellFormed (h : marker.Spelled) (hsmall : ¬ marker.format.TooBig) :
    marker.WellFormed :=
  ⟨h.key, h.format.wellFormed hsmall⟩

/-- Between two templates, any other marker is its placeholder between their segments. -/
theorem parse_eq_ok (h : marker.Spelled) (ha : Template.parse a = .ok first)
    (hsmall : ¬ marker.format.TooBig) {behind : Template} (hb : Template.parse b = .ok behind) :
    Template.parse (a ++ marker.text ++ b) =
      .ok (first.append (.placeholder marker.placeholder :: behind)) := by
  obtain ⟨pieces, hpieces, rfl⟩ := derives_of_parse ha
  obtain ⟨others, hothers, rfl⟩ := derives_of_parse hb
  have hbehind : Derives (marker.text ++ b) (.marker marker :: others) :=
    Derives.cons_iff.2 ⟨h.wellFormed hsmall, b, rfl, hothers⟩
  rw [List.append_assoc, (hpieces.append hbehind).parse_eq, Template.ofPieces_append]
  rfl

/-- In front of a text that is refused, it moves the error by its own size. -/
theorem parse_eq_error (h : marker.Spelled) (ha : Template.parse a = .ok first)
    (hsmall : ¬ marker.format.TooBig) {error : SyntaxError}
    (hb : Template.parse b = .error error) :
    Template.parse (a ++ marker.text ++ b) =
      .error { error with
        offset := Text.utf8Size a + Text.utf8Size marker.text + error.offset } := by
  obtain ⟨pieces, hpieces, -⟩ := derives_of_parse ha
  obtain ⟨front, others, s, rfl, hfront, hoffset, hs⟩ := derives_of_parse_error hb
  have hbehind : Derives (marker.text ++ front) (.marker marker :: others) :=
    Derives.cons_iff.2 ⟨h.wellFormed hsmall, front, rfl, hfront⟩
  rw [List.append_assoc, ← List.append_assoc marker.text, ← List.append_assoc a,
    (hpieces.append hbehind).parse_faulty hs, hoffset, Text.utf8Size_append,
    Text.utf8Size_append, Nat.add_assoc]

end Spelled

/-! ## One marker for another -/

/-- Behind a template and in front of any text, a marker can be exchanged for one that says the
same.  With a number that is too big, both are refused at the same place.  Otherwise what is
behind them decides: the segments are the same, and an error is the one found in the text
behind, moved by the size of what is in front, so that the two differ by as much as the sizes
of the markers do. -/
theorem parse_respelled (ha : Template.parse a = .ok first) (hmarker : marker.Spelled)
    (hother : other.Spelled) (hsame : marker.SaysSame other) (b : Text) :
    (marker.format.TooBig →
      Template.parse (a ++ marker.text ++ b) =
        .error { offset := Text.utf8Size a, fault := .tooBig } ∧
      Template.parse (a ++ other.text ++ b) =
        .error { offset := Text.utf8Size a, fault := .tooBig }) ∧
    (¬ marker.format.TooBig →
      (∀ behind, Template.parse b = .ok behind →
        ∃ segments, Template.parse (a ++ marker.text ++ b) = .ok segments ∧
          Template.parse (a ++ other.text ++ b) = .ok segments) ∧
      ∀ error, Template.parse b = .error error →
        Template.parse (a ++ marker.text ++ b) =
          .error { error with
            offset := Text.utf8Size a + Text.utf8Size marker.text + error.offset } ∧
        Template.parse (a ++ other.text ++ b) =
          .error { error with
            offset := Text.utf8Size a + Text.utf8Size other.text + error.offset }) := by
  refine ⟨fun hbig => ?_, fun hsmall => ⟨fun behind hb => ?_, fun error hb => ?_⟩⟩
  · exact ⟨hmarker.parse_tooBig ha hbig b, hother.parse_tooBig ha (hsame.tooBig hbig) b⟩
  · have hsmall' : ¬ other.format.TooBig := fun hbig => hsmall (hsame.symm.tooBig hbig)
    refine ⟨_, hmarker.parse_eq_ok ha hsmall hb, ?_⟩
    rw [hsame.placeholder_eq]
    exact hother.parse_eq_ok ha hsmall' hb
  · have hsmall' : ¬ other.format.TooBig := fun hbig => hsmall (hsame.symm.tooBig hbig)
    exact ⟨hmarker.parse_eq_error ha hsmall hb, hother.parse_eq_error ha hsmall' hb⟩

/-- The marker `%(é)-5.007Lr`. -/
private def brief : Marker :=
  ⟨['é'], ⟨"-".toList, "5".toList, some "007".toList, "L".toList⟩, .quoted⟩

/-- The marker `%(é)0 -#05.7r`, which says the same in more flags. -/
private def wordy : Marker :=
  ⟨['é'], ⟨"0 -#0".toList, "5".toList, some "7".toList, []⟩, .quoted⟩

private def oversized : Marker :=
  ⟨['é'], ⟨[], [], some "02147483648".toList, []⟩, .ascii⟩

private theorem balanced_letter : Key.Balanced ['é'] :=
  (Key.split?_eq_some_iff.1 (rfl : Key.split? "é)".toList = some (['é'], []))).2

private theorem spelled_examples : brief.Spelled ∧ wordy.Spelled ∧ oversized.Spelled := by
  refine ⟨⟨balanced_letter, ?_⟩, ⟨balanced_letter, ?_⟩, ⟨balanced_letter, ?_⟩⟩ <;>
  · refine ⟨List.all_eq_true.1 rfl, List.all_eq_true.1 rfl, by decide, ?_,
      List.all_eq_true.1 rfl⟩
    rintro digits ⟨⟩
    exact List.all_eq_true.1 rfl

private theorem parse_examples :
    Template.parse "ü%%".toList = .ok [.literal "ü%".toList] ∧
    Template.parse "!".toList = .ok [.literal "!".toList] ∧
    Template.parse "☕%d".toList = .error { offset := 3, fault := .requiresMapping } :=
  ⟨by cbv, by cbv, by cbv⟩

/-- A zero in front of the width and zeros in front of the precision are ignored, and so are
the other flags and the length modifiers; a fault behind the two markers is moved by their
sizes; and zeros do not make a precision too big, nor keep it from being so. -/
theorem parse_respelled_zeros :
    (∃ segments,
      Template.parse ("ü%%".toList ++ "%(é)-5.007Lr".toList ++ "!".toList) = .ok segments ∧
      Template.parse ("ü%%".toList ++ "%(é)0 -#05.7r".toList ++ "!".toList) = .ok segments) ∧
    Template.parse ("ü%%".toList ++ "%(é)-5.007Lr".toList ++ "☕%d".toList) =
      .error { offset := 4 + 13 + 3, fault := .requiresMapping } ∧
    Template.parse ("ü%%".toList ++ "%(é)0 -#05.7r".toList ++ "☕%d".toList) =
      .error { offset := 4 + 14 + 3, fault := .requiresMapping } ∧
    Template.parse ("ü%%".toList ++ "%(é).02147483648a".toList ++ "%".toList) =
      .error { offset := 4, fault := .tooBig } := by
  obtain ⟨hbrief, hwordy, hoversized⟩ := spelled_examples
  obtain ⟨hfront, hbehind, herror⟩ := parse_examples
  have hsame : brief.SaysSame wordy := ⟨rfl, by decide, rfl, by decide, rfl⟩
  have hsmall : ¬ brief.format.TooBig := by
    rintro (hwidth | ⟨digits, ⟨⟩, hprecision⟩)
    · exact absurd hwidth (by decide)
    · exact absurd hprecision (by decide)
  have hbig : oversized.format.TooBig := .inr ⟨_, rfl, by decide⟩
  obtain ⟨hok, -⟩ :=
    (parse_respelled hfront hbrief hwordy hsame "!".toList).2 hsmall
  obtain ⟨-, hmoved⟩ :=
    (parse_respelled hfront hbrief hwordy hsame "☕%d".toList).2 hsmall
  obtain ⟨hrefused, -⟩ := (parse_respelled hfront hoversized hoversized
    ⟨rfl, .rfl, rfl, rfl, rfl⟩ "%".toList).1 hbig
  exact ⟨hok _ hbehind, (hmoved _ herror).1, (hmoved _ herror).2, hrefused⟩

end Marker

end SitePress
