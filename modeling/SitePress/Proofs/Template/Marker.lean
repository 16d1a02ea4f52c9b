import SitePress.Proofs.Template.FormatSpec
import SitePress.Proofs.Template.Key
import SitePress.Template.Normal

/-!
# Markers are read exactly

Reading the body of a marker either finds a well-formed marker of the grammar, and
then exactly this one whatever follows it, or a fault.  What is at fault is described
by what stands behind the percent sign, without a scan: of the ways in which a text
can fail to be a marker no two apply at once, so the fault that is reported is the
one there is.

## Main definitions

* `Faulty` — that what stands behind a percent sign has a certain fault.
-/

namespace SitePress

/-- What stands behind a percent sign is neither a second percent sign nor the rest of a
marker, and this is its fault. -/
inductive Faulty : Text → Fault → Prop
  /-- The text ends behind the percent sign. -/
  | ended : Faulty [] .incompleteFormat
  /-- Neither a percent sign nor a key follows. -/
  | positional {c : Char} {rest : Text} (hpercent : c ≠ '%') (hopen : c ≠ '(') :
    Faulty (c :: rest) .requiresMapping
  /-- No balanced key is closed. -/
  | unclosed {t : Text} (h : ∀ key rest, Key.Balanced key → t ≠ key ++ ')' :: rest) :
    Faulty ('(' :: t) .incompleteKey
  /-- A number is too big, whatever follows it. -/
  | tooBig {key t rest : Text} {spec : FormatSpec} (hkey : Key.Balanced key)
    (hspec : spec.Longest t rest) (hbig : spec.TooBig) :
    Faulty ('(' :: (key ++ ')' :: t)) .tooBig
  /-- The text ends in front of the conversion letter. -/
  | unfinished {key t : Text} {spec : FormatSpec} (hkey : Key.Balanced key)
    (hspec : spec.Longest t []) (hsmall : ¬ spec.TooBig) :
    Faulty ('(' :: (key ++ ')' :: t)) .incompleteFormat
  /-- Another character stands in the place of the conversion letter. -/
  | unsupported {key t rest : Text} {spec : FormatSpec} {c : Char} (hkey : Key.Balanced key)
    (hspec : spec.Longest t (c :: rest)) (hsmall : ¬ spec.TooBig)
    (hletter : ∀ conversion : Conversion, c ≠ conversion.letter) :
    Faulty ('(' :: (key ++ ')' :: t)) (.unsupportedConversion c)

/-! ## Well-formed markers -/

namespace Marker

variable {marker : Marker}

theorem text_append (marker : Marker) (rest : Text) :
    marker.text ++ rest =
      '%' :: '(' :: (marker.key ++ ')' :: (marker.format.text ++
        marker.conversion.letter :: rest)) := by
  simp [text]

theorem WellFormed.writable (h : marker.WellFormed) : marker.placeholder.Writable where
  key := h.key
  width := by
    intro width hwidth
    have hne : marker.format.width ≠ [] := by
      rintro hnil
      simp [placeholder, FormatSpec.layout, hnil] at hwidth
    simp only [placeholder, FormatSpec.layout, if_neg hne, Option.mem_def,
      Option.some.injEq] at hwidth
    subst hwidth
    exact ⟨Numeral.value_pos hne h.format.width h.format.width_head, h.format.width_le⟩
  precision := by
    intro precision hprecision
    obtain ⟨digits, hdigits, rfl⟩ := Option.map_eq_some_iff.1 hprecision
    exact h.format.precision_le digits hdigits

/-- A well-formed marker is read as what it stands for, whatever follows it. -/
theorem read_body (h : marker.WellFormed) (rest : Text) :
    ∃ body, Placeholder.read (marker.key ++ ')' :: (marker.format.text ++
        marker.conversion.letter :: rest)) = .ok body ∧
      body.placeholder = marker.placeholder ∧ body.rest = rest ∧
      1 + body.size = Text.utf8Size marker.text := by
  have hlongest := h.format.longest marker.conversion rest
  simp only [Placeholder.read, h.key.split?_append, hlongest.scan_eq,
    FormatSpec.layout?_eq_some h.format.not_tooBig, Conversion.ofLetter?_letter]
  refine ⟨_, rfl, rfl, rfl, ?_⟩
  have hsizes : '%'.utf8Size = 1 ∧ '('.utf8Size = 1 ∧ ')'.utf8Size = 1 := ⟨rfl, rfl, rfl⟩
  simp only [text, Text.utf8Size_append, Text.utf8Size_cons, Text.utf8Size_nil, hsizes]
  omega

/-- Where a marker ends does not depend on what follows it. -/
theorem WellFormed.append_inj {other : Marker} {rest behind : Text} (h : marker.WellFormed)
    (hother : other.WellFormed) (heq : marker.text ++ rest = other.text ++ behind) :
    marker = other ∧ rest = behind := by
  rw [text_append, text_append, List.cons_inj_right, List.cons_inj_right] at heq
  obtain ⟨hkey, hformat⟩ := h.key.append_inj hother.key heq
  have hscan := (h.format.longest marker.conversion rest).scan_eq
  rw [hformat, (hother.format.longest other.conversion behind).scan_eq] at hscan
  obtain ⟨hspec, hletter, hrest⟩ : other.format = marker.format ∧
      other.conversion.letter = marker.conversion.letter ∧ behind = rest := by
    simpa using hscan
  have hconversion : other.conversion = marker.conversion := by
    have := Conversion.ofLetter?_letter marker.conversion
    rw [← hletter, Conversion.ofLetter?_letter] at this
    exact Option.some.inj this
  obtain ⟨key, format, conversion⟩ := marker
  obtain ⟨key', format', conversion'⟩ := other
  exact ⟨by simp_all, hrest.symm⟩

end Marker

/-! ## Faults -/

namespace Faulty

/-- A body that has a fault is not read, and this fault is reported. -/
theorem read_eq {t : Text} {fault : Fault} (h : Faulty ('(' :: t) fault) :
    Placeholder.read t = .error fault := by
  cases h with
  | positional _ hopen => exact absurd rfl hopen
  | unclosed h => simp only [Placeholder.read, Key.split?_eq_none_iff.2 h]
  | tooBig hkey hspec hbig =>
    simp only [Placeholder.read, hkey.split?_append, hspec.scan_eq,
      FormatSpec.layout?_eq_none hbig]
  | unfinished hkey hspec hsmall =>
    simp only [Placeholder.read, hkey.split?_append, hspec.scan_eq,
      FormatSpec.layout?_eq_some hsmall]
  | @unsupported key t rest spec c hkey hspec hsmall hletter =>
    have hnone : Conversion.ofLetter? c = none := by
      rw [Option.eq_none_iff_forall_ne_some]
      intro conversion hconversion
      exact hletter conversion (Conversion.letter_of_ofLetter? hconversion)
    simp only [Placeholder.read, hkey.split?_append, hspec.scan_eq,
      FormatSpec.layout?_eq_some hsmall, hnone]

end Faulty

/-- Behind `%(` stands the rest of a well-formed marker, or a fault. -/
theorem marker_or_faulty (t : Text) :
    (∃ marker rest, Marker.WellFormed marker ∧ '%' :: '(' :: t = marker.text ++ rest) ∨
      ∃ fault, Faulty ('(' :: t) fault := by
  cases hsplit : Key.split? t with
  | none => exact .inr ⟨_, .unclosed (Key.split?_eq_none_iff.1 hsplit)⟩
  | some found =>
    obtain ⟨key, t⟩ := found
    obtain ⟨rfl, hkey⟩ := Key.split?_eq_some_iff.1 hsplit
    have hspec := FormatSpec.longest_scan t
    by_cases hbig : (FormatSpec.scan t).1.TooBig
    · exact .inr ⟨_, .tooBig hkey hspec hbig⟩
    cases hrest : (FormatSpec.scan t).2 with
    | nil =>
      rw [hrest] at hspec
      exact .inr ⟨_, .unfinished hkey hspec hbig⟩
    | cons c rest =>
      rw [hrest] at hspec
      by_cases hletter : ∃ conversion : Conversion, c = conversion.letter
      · obtain ⟨conversion, rfl⟩ := hletter
        refine .inl ⟨⟨key, _, conversion⟩, rest, ⟨hkey, hspec.wellFormed hbig⟩, ?_⟩
        rw [Marker.text_append, ← hspec.split]
      · exact .inr ⟨_, .unsupported hkey hspec hbig (not_exists.1 hletter)⟩

/-- A body that is read is that of a well-formed marker, and its size is that of the marker
without the percent sign. -/
theorem exists_marker_of_read {t : Text} {body : Placeholder.Body}
    (h : Placeholder.read t = .ok body) :
    ∃ marker : Marker, marker.WellFormed ∧ '%' :: '(' :: t = marker.text ++ body.rest ∧
      marker.placeholder = body.placeholder ∧ 1 + body.size = Text.utf8Size marker.text := by
  obtain ⟨marker, rest, hmarker, heq⟩ | ⟨fault, hfault⟩ := marker_or_faulty t
  · have hbody := marker.text_append rest
    rw [← heq, List.cons_inj_right, List.cons_inj_right] at hbody
    obtain ⟨found, hread, hplaceholder, hrest, hsize⟩ := Marker.read_body hmarker rest
    rw [← hbody, h] at hread
    cases hread
    exact ⟨marker, hmarker, by rw [heq, hrest], hplaceholder.symm, hsize⟩
  · rw [hfault.read_eq] at h
    cases h

end SitePress
