import Mathlib
import SitePress.Proofs.Template.Derivation
import SitePress.Template.Source

/-!
# Written templates are read back

The text of a template is a sequence of pieces that say what the template says, so it
is read back as a template that fills to the same texts.  Values that are put in when
the text is written come out of the second reading as literal text, whatever percent
signs, parentheses or markers they hold: filling in two stages is filling at once.
-/

namespace SitePress

variable {slot : Placeholder} {segments : Template}

/-! ## The pieces of a segment -/

/-- The specification that says no more of a layout than is needed. -/
def Layout.spec (layout : Layout) : FormatSpec :=
  { flags := if layout.leftAlign then ['-'] else []
    width := layout.width.elim [] Numeral.ofNat
    precision := layout.precision.map Numeral.ofNat
    lengthModifiers := [] }

def Placeholder.marker (slot : Placeholder) : Marker :=
  { key := slot.key, format := slot.layout.spec, conversion := slot.conversion }

def Segment.pieces : Segment → List Piece
  | .literal text => text.map fun c => if c = '%' then .percent else .char c
  | .placeholder slot => [.marker slot.marker]

namespace Placeholder

theorem source_eq (slot : Placeholder) : slot.source = slot.marker.text := by
  cases hprecision : slot.layout.precision <;>
    simp [source, Layout.source, marker, Marker.text, Layout.spec, FormatSpec.text,
      FormatSpec.precisionText, hprecision]

/-- The digits of a width have no zero in front, which would be read as a flag. -/
theorem Writable.wellFormed_spec (h : slot.Writable) : slot.layout.spec.WellFormed where
  flags := by
    intro c hc
    simp only [Layout.spec] at hc
    split at hc
    · cases List.mem_singleton.1 hc
      rfl
    · cases hc
  width := by
    intro c hc
    simp only [Layout.spec] at hc
    cases hwidth : slot.layout.width with
    | none => simp [hwidth] at hc
    | some width =>
      rw [hwidth] at hc
      exact Numeral.isDigit_of_mem_ofNat hc
  width_head := by
    simp only [Layout.spec]
    cases hwidth : slot.layout.width with
    | none => simp
    | some width => exact Numeral.head?_ofNat (h.width width hwidth).1
  width_le := by
    simp only [Layout.spec]
    cases hwidth : slot.layout.width with
    | none => exact Nat.zero_le _
    | some width =>
      rw [Option.elim_some, Numeral.value_ofNat]
      exact (h.width width hwidth).2
  precision := by
    intro digits hdigits c hc
    obtain ⟨precision, _, rfl⟩ := Option.map_eq_some_iff.1 hdigits
    exact Numeral.isDigit_of_mem_ofNat hc
  precision_le := by
    intro digits hdigits
    obtain ⟨precision, hprecision, rfl⟩ := Option.map_eq_some_iff.1 hdigits
    rw [Numeral.value_ofNat]
    exact h.precision precision hprecision
  lengthModifiers := by simp [Layout.spec]

theorem Writable.wellFormed_marker (h : slot.Writable) : slot.marker.WellFormed :=
  ⟨h.key, h.wellFormed_spec⟩

end Placeholder

theorem Layout.layout_spec (layout : Layout) : layout.spec.layout = layout := by
  obtain ⟨leftAlign, width, precision⟩ := layout
  simp only [spec, FormatSpec.layout, Layout.mk.injEq]
  refine ⟨?_, ?_, ?_⟩
  · cases leftAlign <;> rfl
  · cases width with
    | none => rfl
    | some width => simp [Numeral.ofNat_ne_nil]
  · cases precision <;> simp

theorem Placeholder.placeholder_marker (slot : Placeholder) : slot.marker.placeholder = slot :=
  congrArg (fun layout => Placeholder.mk slot.key layout slot.conversion) slot.layout.layout_spec

namespace Segment

variable {segment : Segment}

theorem map_atom_pieces (segment : Segment) : segment.pieces.map Piece.atom = segment.atoms := by
  cases segment with
  | literal text =>
    simp only [pieces, atoms, List.map_map]
    refine List.map_congr_left fun c _ => ?_
    by_cases hc : c = '%' <;> simp [hc, Piece.atom]
  | placeholder slot => simp [pieces, atoms, Piece.atom, slot.placeholder_marker]

theorem derives_source (h : ∀ slot, segment = .placeholder slot → slot.Writable) :
    Derives segment.source segment.pieces := by
  cases segment with
  | literal text =>
    refine ⟨?_, ?_⟩
    · intro piece hpiece
      obtain ⟨c, _, rfl⟩ := List.mem_map.1 hpiece
      by_cases hc : c = '%' <;> simp [hc, Piece.WellFormed]
    · rw [pieces, List.flatMap_map]
      refine congrArg (text.flatMap ·) (funext fun c => ?_)
      by_cases hc : c = '%' <;> simp [hc, Piece.text]
  | placeholder slot =>
    refine ⟨?_, ?_⟩
    · simpa [pieces, Piece.WellFormed] using (h slot rfl).wellFormed_marker
    · simp [pieces, source, Piece.text, slot.source_eq]

end Segment

namespace Template

/-- A template whose placeholders can be written is read back with the same atoms. -/
theorem parse_source (h : ∀ slot, .placeholder slot ∈ segments → Placeholder.Writable slot) :
    parse (source segments) = .ok (ofAtoms segments.atoms) := by
  have hderives : Derives (source segments) (segments.flatMap Segment.pieces) := by
    induction segments with
    | nil => exact .nil
    | cons segment segments ih =>
      refine Derives.append (Segment.derives_source fun slot hslot => ?_) (ih fun slot hslot => ?_)
      · exact h slot (hslot ▸ List.mem_cons_self)
      · exact h slot (List.mem_cons_of_mem _ hslot)
  rw [hderives.parse_eq, ofPieces_eq, List.map_flatMap, atoms]
  simp only [Segment.map_atom_pieces]

/-- The templates that are read back as they were written are the normal ones. -/
theorem parse_source_eq_self_iff (segments : Template) :
    parse (source segments) = .ok segments ↔ segments.Normal := by
  constructor
  · intro h
    obtain ⟨pieces, hpieces, hsegments⟩ := derives_of_parse h
    rw [hsegments]
    exact hpieces.normal_ofPieces
  · intro h
    have hwritable : ∀ slot, .placeholder slot ∈ segments → Placeholder.Writable slot :=
      fun slot hslot => h.proper _ hslot
    rw [parse_source hwritable, h.ofAtoms_atoms]

/-- Neighbouring literals are read back as one. -/
example : parse (source [.literal "50".toList, .literal "%".toList]) =
    .ok [.literal "50%".toList] := by
  cbv

/-! ## Putting values in -/

/-- Settling some placeholders and filling the rest is filling with both values, of which
those used to settle come first. -/
theorem fill_map_settle (first second : Values) (segments : Template) :
    fill second (segments.map (Segment.settle first)) =
      fill (first.orElse second) segments := by
  induction segments with
  | nil => rfl
  | cons segment segments ih =>
    have hsegment : (segment.settle first).fill second = segment.fill (first.orElse second) := by
      cases segment with
      | literal text => rfl
      | placeholder slot =>
        simp only [Segment.settle, Segment.fill, Values.orElse]
        cases first slot.key <;> rfl
    rw [List.map_cons, fill, fill, hsegment, ih]

/-- What is not settled was there before. -/
theorem mem_of_placeholder_mem_map_settle {values : Values}
    (h : .placeholder slot ∈ segments.map (Segment.settle values)) :
    .placeholder slot ∈ segments := by
  obtain ⟨segment, hsegment, heq⟩ := List.mem_map.1 h
  cases segment with
  | literal text => cases heq
  | placeholder other =>
    simp only [Segment.settle] at heq
    split at heq
    · exact heq ▸ hsegment
    · cases heq

end Template

/-- Writing a template with the values of `first` put in, and expanding what has been written
with those of `second`, is expanding the template with both, the values of `first` coming
before those of `second`; a key that neither has is reported in both cases. -/
theorem expand_specialise {t : Text} {segments : Template} (h : Template.parse t = .ok segments)
    (first second : Values) :
    Template.expand (Template.specialise first segments) second =
      Template.expand t (first.orElse second) := by
  obtain ⟨pieces, hpieces, rfl⟩ := derives_of_parse h
  have hread : Template.parse (Template.specialise first (Template.ofPieces pieces)) =
      .ok (Template.ofAtoms
        (Template.atoms ((Template.ofPieces pieces).map (Segment.settle first)))) := by
    refine Template.parse_source fun slot hslot => ?_
    exact hpieces.normal_ofPieces.proper _ (Template.mem_of_placeholder_mem_map_settle hslot)
  rw [expand_of_parse hread, expand_of_parse h, Template.fill_ofAtoms_atoms,
    Template.fill_map_settle]

/-- A value that holds a marker and a percent sign is put in first and stays what it is, a
marker without a value is kept, and the second values do not reach the first. -/
theorem expand_specialise_marker :
    ∃ segments,
      Template.parse "50%% %(a)s-%(b).2s".toList = .ok segments ∧
      Template.specialise (Values.ofList [("a".toList, "%(b)s 9%".toList)]) segments =
        "50%% %%(b)s 9%%-%(b).2s".toList ∧
      Template.expand
          (Template.specialise (Values.ofList [("a".toList, "%(b)s 9%".toList)]) segments)
          (Values.ofList [("a".toList, "no".toList), ("b".toList, "xyz".toList)]) =
        .ok "50% %(b)s 9%-xy".toList := by
  have hparse : Template.parse "50%% %(a)s-%(b).2s".toList =
      .ok [.literal "50% ".toList, .placeholder ⟨['a'], ⟨false, none, none⟩, .plain⟩,
        .literal ['-'], .placeholder ⟨['b'], ⟨false, none, some 2⟩, .plain⟩] := by
    cbv
  refine ⟨_, hparse, rfl, ?_⟩
  rw [expand_specialise hparse, expand_of_parse hparse]
  rfl

end SitePress
