import SitePress.Proofs.Except
import SitePress.Proofs.Template.Derivation

/-!
# Keys without a value

A template is filled from its first segment on, so what is reported when a value is
missing is the key of the first placeholder that has none.  Which error there is, if
any, is decided by the text of the template and by which keys have a value; it never
depends on what the values are.
-/

namespace SitePress

namespace Template

variable {values other : Values} {segment : Segment} {segments : Template} {t key : Text}

/-! ## Filling -/

/-- The key is that of a placeholder without a value, and all placeholders in front of it
have one. -/
def FirstMissing (values : Values) (segments : Template) (key : Text) : Prop :=
  ∃ front slot behind, segments = front ++ .placeholder slot :: behind ∧
    slot.key = key ∧ values key = none ∧
    ∀ earlier, .placeholder earlier ∈ front → values earlier.key ≠ none

theorem firstMissing_cons_iff :
    FirstMissing values (segment :: segments) key ↔
      (∃ slot, segment = .placeholder slot ∧ slot.key = key ∧ values key = none) ∨
        (∀ slot, segment = .placeholder slot → values slot.key ≠ none) ∧
          FirstMissing values segments key := by
  constructor
  · rintro ⟨front, slot, behind, hsplit, hkey, hnone, hearlier⟩
    cases front with
    | nil => exact .inl ⟨slot, (List.cons_eq_cons.1 hsplit).1, hkey, hnone⟩
    | cons first front =>
      obtain ⟨rfl, hrest⟩ := List.cons_eq_cons.1 hsplit
      refine .inr ⟨?_, front, slot, behind, hrest, hkey, hnone, ?_⟩
      · rintro earlier rfl
        exact hearlier earlier List.mem_cons_self
      · exact fun earlier hmem => hearlier earlier (List.mem_cons_of_mem _ hmem)
  · rintro (⟨slot, rfl, hkey, hnone⟩ | ⟨hsegment, front, slot, behind, rfl, hkey, hnone, hearlier⟩)
    · exact ⟨[], slot, segments, rfl, hkey, hnone, by simp⟩
    · refine ⟨segment :: front, slot, behind, rfl, hkey, hnone, fun earlier hmem => ?_⟩
      rcases List.mem_cons.1 hmem with hfirst | hmem
      · exact hsegment earlier hfirst.symm
      · exact hearlier earlier hmem

theorem fill_placeholder_cons (values : Values) (slot : Placeholder) (segments : Template) :
    fill values (.placeholder slot :: segments) =
      match values slot.key with
      | none => .error { key := slot.key }
      | some value => (fill values segments).map (slot.block value ++ ·) := by
  simp only [fill, Segment.fill]
  cases values slot.key with
  | none => rfl
  | some value => cases fill values segments <;> rfl

/-- Filling fails at the first key without a value. -/
theorem fill_eq_error_iff :
    fill values segments = .error { key } ↔ FirstMissing values segments key := by
  induction segments with
  | nil => simp [FirstMissing]
  | cons segment segments ih =>
    rw [firstMissing_cons_iff, ← ih]
    cases segment with
    | literal text =>
      rw [fill_literal_cons]
      cases fill values segments <;> simp [Except.map]
    | placeholder slot =>
      rw [fill_placeholder_cons]
      cases hvalue : values slot.key with
      | none =>
        constructor
        · rintro ⟨⟩
          exact .inl ⟨slot, rfl, rfl, hvalue⟩
        · rintro (⟨_, ⟨⟩, rfl, -⟩ | ⟨hslot, -⟩)
          · rfl
          · exact absurd hvalue (hslot slot rfl)
      | some value => cases fill values segments <;> grind [Except.map]

theorem FirstMissing.congr
    (hkeys : ∀ slot, .placeholder slot ∈ segments →
      (values slot.key = none ↔ other slot.key = none))
    (h : FirstMissing values segments key) : FirstMissing other segments key := by
  obtain ⟨front, slot, behind, rfl, rfl, hnone, hearlier⟩ := h
  refine ⟨front, slot, behind, rfl, rfl, (hkeys slot (by simp)).1 hnone, fun earlier hmem => ?_⟩
  exact mt (hkeys earlier (List.mem_append_left _ hmem)).2 (hearlier earlier hmem)

/-! ## Expanding -/

/-- A fault in the text is reported whatever the values are. -/
theorem expand_of_parse_error {error : SyntaxError} (h : parse t = .error error)
    (values : Values) : expand t values = .error (.malformed error) := by
  rw [expand, h]
  rfl

theorem expand_eq_malformed_iff {error : SyntaxError} :
    expand t values = .error (.malformed error) ↔ parse t = .error error := by
  cases hparse : parse t with
  | error found =>
    rw [expand_of_parse_error hparse]
    simp
  | ok segments =>
    rw [expand_of_parse hparse, except_mapError_eq_error_iff]
    simp

/-- A missing value is reported if and only if the text is a template and the key its first
one without a value. -/
theorem expand_eq_missing_iff :
    expand t values = .error (.missing { key }) ↔
      ∃ segments, parse t = .ok segments ∧ FirstMissing values segments key := by
  cases hparse : parse t with
  | error found =>
    rw [expand_of_parse_error hparse]
    simp
  | ok segments =>
    rw [expand_of_parse hparse, except_mapError_eq_error_iff]
    simp [← fill_eq_error_iff]

/-- Whether a text expands, and the error if it does not, is the same whatever the values are, as
long as the same placeholders have one. -/
theorem expand_eq_error_congr
    (hkeys : ∀ segments, parse t = .ok segments → ∀ slot, .placeholder slot ∈ segments →
      (values slot.key = none ↔ other slot.key = none))
    {error : TemplateError} (h : expand t values = .error error) :
    expand t other = .error error := by
  cases error with
  | malformed found => exact expand_eq_malformed_iff.2 (expand_eq_malformed_iff.1 h)
  | missing found =>
    obtain ⟨segments, hparse, hmissing⟩ := expand_eq_missing_iff.1 h
    exact expand_eq_missing_iff.2 ⟨segments, hparse, hmissing.congr (hkeys segments hparse)⟩

end Template

end SitePress
