import SitePress.Proofs.Template.Piece

/-!
# What is a template, and what is wrong with the rest

Every text is a sequence of pieces up to its end or up to a fault, and there is one
way to write it so.  Reading follows that sequence: a text is read if and only if it
has a derivation in the grammar, as the normal template with the atoms of the pieces,
and otherwise the fault is reported at the percent sign where the pieces end.
-/

namespace SitePress

variable {t u s : Text} {pieces others : List Piece} {fault : Fault}

/-! ## The segments of pieces -/

namespace Template

theorem ofPieces_eq (pieces : List Piece) : ofPieces pieces = ofAtoms (pieces.map Piece.atom) := by
  induction pieces with
  | nil => rfl
  | cons piece pieces ih =>
    rw [ofPieces, List.foldr_cons, Piece.cons_eq]
    exact congrArg piece.atom.cons ih

theorem atoms_ofPieces (pieces : List Piece) :
    (ofPieces pieces).atoms = pieces.map Piece.atom := by
  rw [ofPieces_eq, atoms_ofAtoms]

end Template

/-! ## Derivations -/

namespace Derives

theorem nil : Derives [] [] where
  wellFormed := by simp
  text := rfl

theorem cons_iff {piece : Piece} :
    Derives t (piece :: pieces) ↔
      piece.WellFormed ∧ ∃ rest, t = piece.text ++ rest ∧ Derives rest pieces := by
  constructor
  · rintro ⟨wellFormed, rfl⟩
    obtain ⟨hpiece, hpieces⟩ := List.forall_mem_cons.1 wellFormed
    exact ⟨hpiece, _, List.flatMap_cons, hpieces, rfl⟩
  · rintro ⟨hpiece, rest, rfl, wellFormed, rfl⟩
    exact ⟨List.forall_mem_cons.2 ⟨hpiece, wellFormed⟩, List.flatMap_cons.symm⟩

theorem append (h : Derives t pieces) (hother : Derives u others) :
    Derives (t ++ u) (pieces ++ others) where
  wellFormed := List.forall_mem_append.2 ⟨h.wellFormed, hother.wellFormed⟩
  text := by rw [h.text, hother.text, List.flatMap_append]

/-- A text is written as pieces in one way only. -/
theorem unique (h : Derives t pieces) (hother : Derives t others) : pieces = others := by
  induction pieces generalizing t others with
  | nil =>
    cases others with
    | nil => rfl
    | cons other others =>
      obtain ⟨_, rest, heq, _⟩ := cons_iff.1 hother
      rw [h.text] at heq
      exact absurd (List.append_eq_nil_iff.1 heq.symm).1 other.text_ne_nil
  | cons piece pieces ih =>
    obtain ⟨hpiece, rest, rfl, hrest⟩ := cons_iff.1 h
    cases others with
    | nil => exact absurd (List.append_eq_nil_iff.1 hother.text).1 piece.text_ne_nil
    | cons other others =>
      obtain ⟨hwell, behind, heq, hbehind⟩ := cons_iff.1 hother
      obtain ⟨rfl, rfl⟩ := hpiece.append_inj hwell heq
      rw [ih hrest hbehind]

/-! ## Reading along a derivation -/

/-- What has a derivation is read piece by piece, and what follows it from behind it. -/
theorem segments_append (h : Derives t pieces) (rest : Text) (offset : Nat) :
    Cursor.segments { offset, rest := t ++ rest } =
      (Cursor.segments { offset := offset + Text.utf8Size t, rest }).map
        fun behind => (pieces.map Piece.atom).foldr Atom.cons behind := by
  induction pieces generalizing t offset with
  | nil =>
    obtain rfl : t = [] := h.text
    exact (congrFun Except.map_id _).symm
  | cons piece pieces ih =>
    obtain ⟨hpiece, behind, rfl, hbehind⟩ := cons_iff.1 h
    rw [List.append_assoc, Cursor.segments_piece hpiece, ih hbehind, except_map_map,
      Text.utf8Size_append, Nat.add_assoc]
    rfl

/-- A derivation is read as the segments its pieces stand for. -/
theorem parse_eq (h : Derives t pieces) :
    Template.parse t = .ok (Template.ofPieces pieces) := by
  have hread := h.segments_append [] 0
  rw [List.append_nil, Cursor.segments_nil] at hread
  rw [Template.ofPieces_eq]
  exact hread

/-- A fault behind a derivation is reported where the derivation ends. -/
theorem parse_faulty (h : Derives t pieces) (hs : Faulty s fault) :
    Template.parse (t ++ '%' :: s) = .error { offset := Text.utf8Size t, fault } := by
  have hread := h.segments_append ('%' :: s) 0
  rw [Cursor.segments_faulty hs, Nat.zero_add] at hread
  exact hread

theorem normal_ofPieces (h : Derives t pieces) : (Template.ofPieces pieces).Normal := by
  rw [Template.ofPieces_eq]
  refine Template.normal_ofAtoms fun slot hslot => ?_
  obtain ⟨piece, hpiece, hatom⟩ := List.mem_map.1 hslot
  cases piece with
  | char c => cases hatom
  | percent => cases hatom
  | marker m =>
    cases hatom
    exact Marker.WellFormed.writable (h.wellFormed _ hpiece)

end Derives

/-- Every text is a sequence of pieces, up to its end or up to a fault. -/
theorem derives_or_faulty (t : Text) :
    (∃ pieces, Derives t pieces) ∨
      ∃ front pieces s fault, t = front ++ '%' :: s ∧ Derives front pieces ∧ Faulty s fault := by
  induction hn : t.length using Nat.strongRecOn generalizing t with
  | _ n ih =>
    by_cases ht : t = []
    · exact .inl ⟨[], ht ▸ .nil⟩
    obtain ⟨piece, rest, hpiece, rfl⟩ | ⟨s, fault, rfl, hs⟩ := piece_or_faulty ht
    · have hshorter : rest.length < n := by
        have := List.length_pos_iff.2 piece.text_ne_nil
        simp only [List.length_append] at hn
        omega
      obtain ⟨pieces, h⟩ | ⟨front, pieces, s, fault, rfl, h, hs⟩ := ih _ hshorter rest rfl
      · exact .inl ⟨piece :: pieces, Derives.cons_iff.2 ⟨hpiece, rest, rfl, h⟩⟩
      · exact .inr ⟨piece.text ++ front, piece :: pieces, s, fault,
          (List.append_assoc ..).symm, Derives.cons_iff.2 ⟨hpiece, front, rfl, h⟩, hs⟩
    · exact .inr ⟨[], [], s, fault, rfl, .nil, hs⟩

/-! ## Accepted and refused texts -/

/-- What is read has a derivation. -/
theorem derives_of_parse {segments : Template} (h : Template.parse t = .ok segments) :
    ∃ pieces, Derives t pieces ∧ segments = Template.ofPieces pieces := by
  obtain ⟨pieces, hpieces⟩ | ⟨front, pieces, s, fault, rfl, hpieces, hs⟩ := derives_or_faulty t
  · rw [hpieces.parse_eq] at h
    cases h
    exact ⟨pieces, hpieces, rfl⟩
  · rw [hpieces.parse_faulty hs] at h
    cases h

theorem derives_of_parse_error {error : SyntaxError} (h : Template.parse t = .error error) :
    ∃ front pieces s, t = front ++ '%' :: s ∧ Derives front pieces ∧
      error.offset = Text.utf8Size front ∧ Faulty s error.fault := by
  obtain ⟨pieces, hpieces⟩ | ⟨front, pieces, s, fault, rfl, hpieces, hs⟩ := derives_or_faulty t
  · rw [hpieces.parse_eq] at h
    cases h
  · rw [hpieces.parse_faulty hs] at h
    cases h
    exact ⟨front, pieces, s, rfl, hpieces, rfl, hs⟩

/-- A fault behind a template is reported, and nothing behind it is looked at. -/
theorem parse_append_faulty {front : Text}
    (hfront : ∃ segments, Template.parse front = .ok segments) (hs : Faulty s fault) :
    Template.parse (front ++ '%' :: s) = .error { offset := Text.utf8Size front, fault } := by
  obtain ⟨segments, hsegments⟩ := hfront
  obtain ⟨pieces, h, -⟩ := derives_of_parse hsegments
  exact h.parse_faulty hs

theorem expand_of_parse {segments : Template} (h : Template.parse t = .ok segments)
    (values : Values) :
    Template.expand t values = (segments.fill values).mapError .missing := by
  rw [Template.expand, h]
  rfl

/-- Texts of the same size in front of a place are the same text. -/
theorem Text.append_inj_of_utf8Size {front behind front' behind' : Text}
    (hsize : utf8Size front = utf8Size front') (h : front ++ behind = front' ++ behind') :
    front = front' ∧ behind = behind' := by
  have hdrop := dropBytes?_append front behind
  rw [h, hsize, dropBytes?_append] at hdrop
  obtain rfl := Option.some.inj hdrop
  exact ⟨List.append_cancel_right h, rfl⟩

/-- A text is read if and only if it is written as pieces of the grammar, which it is in
at most one way.  The segments read are those that say what the pieces say, without an
empty or a second neighbouring literal. -/
theorem parse_eq_ok_iff_derives (t : Text) :
    ((∃ segments, Template.parse t = .ok segments) ↔ ∃ pieces, Derives t pieces) ∧
    (∀ pieces others, Derives t pieces → Derives t others → pieces = others) ∧
    ∀ pieces segments, Derives t pieces →
      (Template.parse t = .ok segments ↔
        segments.Normal ∧ segments.atoms = pieces.map Piece.atom) := by
  refine ⟨⟨?_, ?_⟩, fun pieces others => Derives.unique, fun pieces segments h => ⟨?_, ?_⟩⟩
  · rintro ⟨segments, hparse⟩
    obtain ⟨pieces, h, -⟩ := derives_of_parse hparse
    exact ⟨pieces, h⟩
  · rintro ⟨pieces, h⟩
    exact ⟨_, h.parse_eq⟩
  · intro hparse
    rw [h.parse_eq] at hparse
    cases hparse
    exact ⟨h.normal_ofPieces, Template.atoms_ofPieces pieces⟩
  · rintro ⟨hnormal, hatoms⟩
    rw [h.parse_eq, Template.ofPieces_eq, ← hatoms, hnormal.ofAtoms_atoms]

/-- An error is reported if and only if the text is a template, a percent sign behind which
this fault stands, and the rest; the offset is that of the percent sign.  There is at most
one such fault in a text. -/
theorem parse_eq_error_iff_faulty (t : Text) :
    (∀ error, Template.parse t = .error error ↔
      ∃ front s, t = front ++ '%' :: s ∧ (∃ segments, Template.parse front = .ok segments) ∧
        error.offset = Text.utf8Size front ∧ Faulty s error.fault) ∧
    ∀ front s fault front' s' fault',
      (t = front ++ '%' :: s ∧ (∃ segments, Template.parse front = .ok segments) ∧
        Faulty s fault) →
      (t = front' ++ '%' :: s' ∧ (∃ segments, Template.parse front' = .ok segments) ∧
        Faulty s' fault') →
      front = front' ∧ s = s' ∧ fault = fault' := by
  refine ⟨fun error => ⟨?_, ?_⟩, ?_⟩
  · intro hparse
    obtain ⟨front, pieces, s, rfl, h, hoffset, hs⟩ := derives_of_parse_error hparse
    exact ⟨front, s, rfl, ⟨_, h.parse_eq⟩, hoffset, hs⟩
  · rintro ⟨front, s, rfl, hfront, hoffset, hs⟩
    rw [parse_append_faulty hfront hs, ← hoffset]
  · rintro front s fault front' s' fault' ⟨rfl, hfront, hs⟩ ⟨heq, hfront', hs'⟩
    have hsame := parse_append_faulty hfront hs
    rw [heq, parse_append_faulty hfront' hs'] at hsame
    obtain ⟨hsize, rfl⟩ : Text.utf8Size front' = Text.utf8Size front ∧ fault' = fault := by
      simpa using hsame
    obtain ⟨rfl, hrest⟩ := Text.append_inj_of_utf8Size hsize heq.symm
    exact ⟨rfl, (List.cons_eq_cons.1 hrest).2.symm, rfl⟩

end SitePress
