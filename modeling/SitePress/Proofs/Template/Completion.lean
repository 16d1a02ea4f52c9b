import Mathlib
import SitePress.Proofs.Template.Derivation

/-!
# What more text can mend

A text that is refused because it ends too early is the start of a template: the key
that is open can be closed, and a conversion letter can be put behind it.  Any other
fault is found before the end of the text is looked at, so it is the same fault, in
the same place, whatever follows.  This includes a number that is too big although
its digits may go on: more digits make no number smaller.
-/

namespace SitePress

variable {t s : Text} {pieces : List Piece} {fault : Fault}

/-- The text ends too early. -/
def Fault.Incomplete (fault : Fault) : Prop :=
  fault = .incompleteFormat ∨ fault = .incompleteKey

instance (fault : Fault) : Decidable fault.Incomplete :=
  inferInstanceAs (Decidable (_ ∨ _))

/-! ## Faults and the text behind them -/

namespace Faulty

/-- A fault that is not the end of the text stays when more text follows. -/
theorem append (h : Faulty s fault) (hfault : ¬ fault.Incomplete) (more : Text) :
    Faulty (s ++ more) fault := by
  cases h with
  | ended => exact absurd (.inl rfl) hfault
  | positional hpercent hopen => exact .positional hpercent hopen
  | unclosed => exact absurd (.inr rfl) hfault
  | tooBig hkey hspec hbig =>
    -- the digits may go on, so this can be another specification than the one before
    obtain ⟨longer, behind, hlonger, hbig⟩ := hspec.tooBig_append hbig more
    simpa using Faulty.tooBig hkey hlonger hbig
  | unfinished => exact absurd (.inl rfl) hfault
  | unsupported hkey hspec hsmall hletter =>
    have hlonger := hspec.append (List.cons_ne_nil _ _) more
    simpa using Faulty.unsupported hkey hlonger hsmall hletter

/-- An open key can be closed; then only the conversion letter is missing. -/
theorem exists_append_of_incompleteKey (h : Faulty s .incompleteKey) :
    ∃ more, Faulty (s ++ more) .incompleteFormat := by
  cases h with
  | @unclosed t hopen =>
    obtain ⟨n, hkey⟩ := Key.exists_balanced_append hopen
    have hsmall : ¬ (FormatSpec.scan []).1.TooBig := by
      simp [FormatSpec.scan, FormatSpec.scanPrecision, FormatSpec.TooBig, Numeral.value]
    refine ⟨List.replicate n ')' ++ [')'], ?_⟩
    simpa using Faulty.unfinished hkey (FormatSpec.longest_scan []) hsmall

/-- A text that ends in front of its conversion letter, or right behind the percent sign,
goes on as a piece. -/
theorem exists_append_of_incompleteFormat (h : Faulty s .incompleteFormat) :
    ∃ more piece, Piece.WellFormed piece ∧ '%' :: (s ++ more) = piece.text := by
  cases h with
  | ended => exact ⟨['%'], .percent, trivial, rfl⟩
  | @unfinished key t spec hkey hspec hsmall =>
    refine ⟨['s'], .marker ⟨key, spec, .plain⟩, ⟨hkey, hspec.wellFormed hsmall⟩, ?_⟩
    simp [hspec.split, Piece.text, Marker.text, Conversion.letter]

/-- A text that ends too early behind a percent sign goes on as a piece. -/
theorem exists_append (h : Faulty s fault) (hfault : fault.Incomplete) :
    ∃ more piece, Piece.WellFormed piece ∧ '%' :: (s ++ more) = piece.text := by
  obtain rfl | rfl := hfault
  · exact exists_append_of_incompleteFormat h
  · obtain ⟨closing, hclosed⟩ := exists_append_of_incompleteKey h
    obtain ⟨letter, piece, hpiece, htext⟩ := exists_append_of_incompleteFormat hclosed
    exact ⟨closing ++ letter, piece, hpiece, by rw [← htext, List.append_assoc]⟩

end Faulty

/-! ## Texts that are refused -/

namespace Derives

/-- A text that ends too early behind a template goes on as a template. -/
theorem exists_parse_append (h : Derives t pieces) (hs : Faulty s fault)
    (hfault : fault.Incomplete) :
    ∃ more segments, Template.parse (t ++ '%' :: s ++ more) = .ok segments := by
  obtain ⟨more, piece, hpiece, htext⟩ := hs.exists_append hfault
  have hlast : Derives ('%' :: (s ++ more)) [piece] :=
    cons_iff.2 ⟨hpiece, [], by rw [htext, List.append_nil], .nil⟩
  have hread := (h.append hlast).parse_eq
  rw [← List.cons_append, ← List.append_assoc] at hread
  exact ⟨more, _, hread⟩

/-- Whatever follows a template, no fault is reported in front of its end. -/
theorem parse_ok_or_le_offset (h : Derives t pieces) (more : Text) :
    (∃ segments, Template.parse (t ++ more) = .ok segments) ∨
      ∃ error, Template.parse (t ++ more) = .error error ∧ Text.utf8Size t ≤ error.offset := by
  obtain ⟨others, hmore⟩ | ⟨front, others, s, fault, rfl, hfront, hs⟩ := derives_or_faulty more
  · exact .inl ⟨_, (h.append hmore).parse_eq⟩
  · have hread := (h.append hfront).parse_faulty hs
    rw [List.append_assoc, Text.utf8Size_append] at hread
    exact .inr ⟨_, hread, Nat.le_add_right _ _⟩

end Derives

/-- When more text follows a refused one.  Some text makes it a template if and only if it
ends too early; then no text makes a fault appear farther in front.  Otherwise every text
leaves the error what it is. -/
theorem parse_append_of_parse_error {error : SyntaxError} (h : Template.parse t = .error error) :
    ((∃ more segments, Template.parse (t ++ more) = .ok segments) ↔ error.fault.Incomplete) ∧
    (¬ error.fault.Incomplete → ∀ more, Template.parse (t ++ more) = .error error) ∧
    (error.fault.Incomplete → ∀ more,
      (∃ segments, Template.parse (t ++ more) = .ok segments) ∨
        ∃ later, Template.parse (t ++ more) = .error later ∧ error.offset ≤ later.offset) := by
  obtain ⟨front, pieces, s, rfl, hfront, hoffset, hs⟩ := derives_of_parse_error h
  have hstays (hfault : ¬ error.fault.Incomplete) (more : Text) :
      Template.parse (front ++ '%' :: s ++ more) = .error error := by
    rw [List.append_assoc, List.cons_append, hfront.parse_faulty (hs.append hfault more),
      ← hoffset]
  refine ⟨⟨?_, hfront.exists_parse_append hs⟩, hstays, fun _ more => ?_⟩
  · rintro ⟨more, segments, hmore⟩
    refine Decidable.byContradiction fun hfault => ?_
    rw [hstays hfault more] at hmore
    cases hmore
  · rw [hoffset, List.append_assoc]
    exact hfront.parse_ok_or_le_offset _

/-- Two keys that are open are closed by more text, and a width that is too big is not made
smaller by more digits. -/
theorem parse_append_of_parse_error_open_key :
    Template.parse "ü%(a(b%".toList = .error { offset := 2, fault := .incompleteKey } ∧
    (∃ more segments, Template.parse ("ü%(a(b%".toList ++ more) = .ok segments) ∧
    Template.parse "50%%%(k)-2147483648".toList = .error { offset := 4, fault := .tooBig } ∧
    Template.parse ("50%%%(k)-2147483648".toList ++ "0s".toList) =
      .error { offset := 4, fault := .tooBig } := by
  have hopen : Template.parse "ü%(a(b%".toList =
      .error { offset := 2, fault := .incompleteKey } := by
    cbv
  have hbig : Template.parse "50%%%(k)-2147483648".toList =
      .error { offset := 4, fault := .tooBig } := by
    cbv
  have hstays : ¬ Fault.Incomplete .tooBig := by decide
  exact ⟨hopen, (parse_append_of_parse_error hopen).1.2 (.inr rfl), hbig,
    (parse_append_of_parse_error hbig).2.1 hstays _⟩

end SitePress
