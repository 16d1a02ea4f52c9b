import SitePress.Proofs.Except
import SitePress.Proofs.Template.Marker
import SitePress.Proofs.Template.Segment
import SitePress.Template.Parser

/-!
# Reading piece by piece

One stride of the reader may go over many pieces, since it takes all literal text up
to the next percent sign.  What it reads is nevertheless what would be read piece by
piece: the segments of a piece and a rest are those of the rest with the piece in
front, at an offset that is larger by the size of the piece.  A piece is found again
in front of any rest, so pieces cannot run into one another.
-/

namespace SitePress

variable {rest : Text} {offset : Nat}

/-! ## Strides and segments -/

namespace Cursor

/-- The segments behind a place, by what the next stride finds. -/
theorem segments_eq (cursor : Cursor) :
    cursor.segments =
      match cursor.stride with
      | .error error => .error error
      | .ok (.finish literal) => .ok (Segment.prepend literal [])
      | .ok (.percent literal next) => next.segments.map (Segment.prepend (literal ++ ['%']))
      | .ok (.marker literal slot next) =>
        next.segments.map fun behind => Segment.prepend literal (.placeholder slot :: behind) := by
  rw [segments]
  split
  next h => simp only [h]
  next h => simp only [h]
  next h => simp only [h]
  next h => simp only [h]

theorem segments_nil : segments { offset, rest := [] } = .ok [] := by
  rw [segments_eq]
  rfl

/-- A stride from a character in front goes as far, with the character in its literal. -/
private theorem stride_char {c : Char} (hc : c ≠ '%') (rest : Text) :
    stride { offset, rest := c :: rest } =
      (stride { offset := offset + c.utf8Size, rest }).map fun
        | .finish literal => .finish (c :: literal)
        | .percent literal next => .percent (c :: literal) next
        | .marker literal slot next => .marker (c :: literal) slot next := by
  have hplain : isPlain c := by simpa [isPlain] using hc
  simp only [stride, List.takeWhile_cons_of_pos hplain, List.dropWhile_cons_of_pos hplain,
    Text.utf8Size_cons, ← Nat.add_assoc]
  cases rest.dropWhile isPlain with
  | nil => rfl
  | cons _ behind =>
    cases behind with
    | nil => rfl
    | cons d behind =>
      by_cases hpercent : d = '%'
      · simp [hpercent, Except.map]
      · by_cases hopen : d = '('
        · simp only [hopen]
          cases Placeholder.read behind <;> rfl
        · simp [hpercent, hopen, Except.map]

theorem segments_char {c : Char} (hc : c ≠ '%') (rest : Text) :
    segments { offset, rest := c :: rest } =
      (segments { offset := offset + c.utf8Size, rest }).map (Segment.prepend [c]) := by
  rw [segments_eq, segments_eq { offset := offset + c.utf8Size, rest }, stride_char hc]
  cases stride { offset := offset + c.utf8Size, rest } with
  | error error => rfl
  | ok stride =>
    cases stride with
    | finish literal => exact congrArg Except.ok (Segment.prepend_prepend [c] literal []).symm
    | percent literal next =>
      change next.segments.map (Segment.prepend (c :: (literal ++ ['%']))) = _
      simp only [except_map_map, Segment.prepend_prepend, List.singleton_append]
    | marker literal slot next =>
      change (next.segments.map fun behind =>
        Segment.prepend (c :: literal) (.placeholder slot :: behind)) = _
      simp only [except_map_map, Segment.prepend_prepend, List.singleton_append]

theorem segments_percent (rest : Text) :
    segments { offset, rest := '%' :: '%' :: rest } =
      (segments { offset := offset + 2, rest }).map (Segment.prepend ['%']) := by
  rw [segments_eq]
  rfl

/-- A well-formed marker is read as its placeholder. -/
theorem segments_marker {marker : Marker} (h : marker.WellFormed) (rest : Text) :
    segments { offset, rest := marker.text ++ rest } =
      (segments { offset := offset + Text.utf8Size marker.text, rest }).map
        fun behind => .placeholder marker.placeholder :: behind := by
  obtain ⟨body, hread, hplaceholder, hrest, hsize⟩ := marker.read_body h rest
  have hstride : stride { offset, rest := marker.text ++ rest } =
      .ok (.marker [] marker.placeholder
        { offset := offset + Text.utf8Size marker.text, rest }) := by
    rw [Marker.text_append, ← hplaceholder, ← hsize, ← Nat.add_assoc]
    simp [stride, isPlain, hread, hrest]
  rw [segments_eq, hstride]
  rfl

/-- At a fault reading ends, and the fault is reported at its percent sign. -/
theorem segments_faulty {s : Text} {fault : Fault} (h : Faulty s fault) :
    segments { offset, rest := '%' :: s } = .error { offset, fault } := by
  have hstride : stride { offset, rest := '%' :: s } = .error { offset, fault } := by
    cases s with
    | nil =>
      cases h
      rfl
    | cons c t =>
      by_cases hopen : c = '('
      · subst hopen
        simp [stride, isPlain, h.read_eq]
      · cases h with
        | positional hpercent _ => simp [stride, isPlain, hpercent, hopen]
        | unclosed | tooBig | unfinished | unsupported => exact absurd rfl hopen
  rw [segments_eq, hstride]

end Cursor

/-! ## Pieces -/

theorem Piece.text_ne_nil (piece : Piece) : piece.text ≠ [] := by
  cases piece <;> simp [Piece.text, Marker.text]

/-- What a piece contributes to a template. -/
def Piece.atom : Piece → Atom
  | .char c => .char c
  | .percent => .char '%'
  | .marker m => .placeholder m.placeholder

theorem Piece.cons_eq (piece : Piece) : piece.cons = piece.atom.cons := by
  cases piece <;> rfl

/-- A piece is read on its own, and what follows it is read from behind it. -/
theorem Cursor.segments_piece {piece : Piece} (h : piece.WellFormed) (rest : Text) :
    segments { offset, rest := piece.text ++ rest } =
      (segments { offset := offset + Text.utf8Size piece.text, rest }).map piece.atom.cons := by
  cases piece with
  | char c => exact segments_char h rest
  | percent => exact segments_percent rest
  | marker m => exact segments_marker h rest

/-- A piece that two texts start with ends at the same place in both. -/
theorem Piece.WellFormed.append_inj {piece other : Piece} {rest behind : Text}
    (h : piece.WellFormed) (hother : other.WellFormed)
    (heq : piece.text ++ rest = other.text ++ behind) : piece = other ∧ rest = behind := by
  cases piece with
  | char c =>
    cases other with
    | char d => simpa [Piece.text] using heq
    | percent => exact absurd (List.cons_eq_cons.1 heq).1 h
    | marker m =>
      rw [Piece.text, Piece.text, Marker.text_append] at heq
      exact absurd (List.cons_eq_cons.1 heq).1 h
  | percent =>
    cases other with
    | char d => exact absurd (List.cons_eq_cons.1 heq).1.symm hother
    | percent => simpa [Piece.text] using heq
    | marker m =>
      rw [Piece.text, Piece.text, Marker.text_append] at heq
      simp at heq
  | marker m =>
    cases other with
    | char d =>
      rw [Piece.text, Piece.text, Marker.text_append] at heq
      exact absurd (List.cons_eq_cons.1 heq).1.symm hother
    | percent =>
      rw [Piece.text, Piece.text, Marker.text_append] at heq
      simp at heq
    | marker m' =>
      obtain ⟨rfl, rfl⟩ := Marker.WellFormed.append_inj h hother heq
      exact ⟨rfl, rfl⟩

/-- Every text that is not empty starts with a piece or with a fault. -/
theorem piece_or_faulty {t : Text} (ht : t ≠ []) :
    (∃ piece rest, Piece.WellFormed piece ∧ t = piece.text ++ rest) ∨
      ∃ s fault, t = '%' :: s ∧ Faulty s fault := by
  cases t with
  | nil => exact absurd rfl ht
  | cons c t =>
    by_cases hplain : c = '%'
    case neg => exact .inl ⟨.char c, t, hplain, rfl⟩
    subst hplain
    cases t with
    | nil => exact .inr ⟨_, _, rfl, .ended⟩
    | cons d t =>
      by_cases hpercent : d = '%'
      · exact .inl ⟨.percent, t, trivial, by rw [hpercent]; rfl⟩
      by_cases hopen : d = '('
      · subst hopen
        obtain ⟨marker, rest, h, heq⟩ | ⟨fault, h⟩ := marker_or_faulty t
        · exact .inl ⟨.marker marker, rest, h, heq⟩
        · exact .inr ⟨_, fault, rfl, h⟩
      · exact .inr ⟨_, _, rfl, .positional hpercent hopen⟩

end SitePress
