import Mathlib
import SitePress.Proofs.Template.Derivation

/-!
# Templates behind one another

Nothing is carried over the place where a template ends: read in front of any other
text it yields the same segments, and the other text the same segments or the same
error, farther along by the size of the template.  All that shows of the place is that
two literals which meet there are one.
-/

namespace SitePress

namespace Template

variable {first second : Template}

/-- The segments of two templates, one behind the other, except that a literal at the end
of the first and a literal at the head of the second are one. -/
inductive Joined : Template → Template → Template → Prop
  | merged (front : Template) (s t : Text) (behind : Template) :
    Joined (front ++ [.literal s]) (.literal t :: behind) (front ++ .literal (s ++ t) :: behind)
  | apart {first second : Template}
    (h : ∀ front s t behind, first = front ++ [.literal s] → second ≠ .literal t :: behind) :
    Joined first second (first ++ second)

/-! ## Putting templates behind one another -/

theorem append_prepend (text : Text) (first second : Template) :
    append (Segment.prepend text first) second = Segment.prepend text (append first second) := by
  by_cases hempty : text = []
  · rw [hempty, Segment.prepend_nil, Segment.prepend_nil]
  cases first with
  | nil =>
    rw [Segment.prepend_eq_cons hempty (by simp)]
    rfl
  | cons segment first =>
    cases segment with
    | literal next =>
      cases first with
      | nil => exact (Segment.prepend_prepend text next second).symm
      | cons _ _ => rfl
    | placeholder slot =>
      rw [Segment.prepend_eq_cons hempty (by simp), append, append,
        Segment.prepend_eq_cons hempty (by simp)]
      · simp
      · simp

/-- The segments of pieces and further pieces are those of the two, one behind the other. -/
theorem ofPieces_append (pieces others : List Piece) :
    ofPieces (pieces ++ others) = append (ofPieces pieces) (ofPieces others) := by
  induction pieces with
  | nil => rfl
  | cons piece pieces ih =>
    change piece.cons (ofPieces (pieces ++ others)) =
      append (piece.cons (ofPieces pieces)) (ofPieces others)
    rw [ih]
    cases piece with
    | char c => exact (append_prepend [c] _ _).symm
    | percent => exact (append_prepend ['%'] _ _).symm
    | marker m => rfl

/-- Two templates, one behind the other, fill to the two texts one behind the other, or to
the first key without a value in either of them. -/
theorem fill_append (values : Values) (first second : Template) :
    (append first second).fill values =
      (first.fill values).bind fun front => (second.fill values).map (front ++ ·) := by
  fun_induction append first second with
  | case1 second => exact (congrFun Except.map_id _).symm
  | case2 text second =>
    rw [fill_prepend, fill_literal_cons, fill_nil]
    simp [Except.map, Except.bind]
  | case3 segment segments second h ih =>
    simp only [fill, ih]
    cases segment.fill values with
    | error missing => rfl
    | ok front =>
      cases fill values segments with
      | error missing => rfl
      | ok middle =>
        cases fill values second with
        | error missing => rfl
        | ok behind => exact congrArg Except.ok (List.append_assoc front middle behind).symm

theorem append_literal_end (front : Template) (s : Text) (second : Template) :
    append (front ++ [.literal s]) second = front ++ Segment.prepend s second := by
  induction front with
  | nil => rfl
  | cons segment front ih =>
    rw [List.cons_append, append, ih]
    · rfl
    · simp

theorem append_eq (h : ∀ front s, first ≠ front ++ [.literal s]) :
    append first second = first ++ second := by
  induction first with
  | nil => rfl
  | cons segment first ih =>
    rw [append, ih, List.cons_append]
    · rintro front s rfl
      exact h (segment :: front) s rfl
    · rintro text rfl rfl
      exact h [] text rfl

/-- Without empty literals, only literals that meet are made one. -/
theorem joined_append (hfirst : ∀ segment ∈ first, segment ≠ .literal []) (second : Template) :
    Joined first second (append first second) := by
  by_cases hend : ∃ front s, first = front ++ [.literal s]
  · obtain ⟨front, s, rfl⟩ := hend
    rw [append_literal_end]
    by_cases hhead : ∃ t behind, second = .literal t :: behind
    · obtain ⟨t, behind, rfl⟩ := hhead
      exact .merged front s t behind
    · simp only [not_exists] at hhead
      have hs : s ≠ [] := by
        rintro rfl
        exact hfirst (.literal []) (by simp) rfl
      rw [Segment.prepend_eq_cons hs hhead, List.append_cons front (.literal s) second]
      exact .apart fun _ _ t behind _ => hhead t behind
  · simp only [not_exists] at hend
    rw [append_eq hend]
    exact .apart fun front s _ _ h => absurd h (hend front s)

end Template

/-! ## Reading and expanding -/

/-- A text behind a template. -/
theorem parse_append {a : Text} {first : Template} (ha : Template.parse a = .ok first)
    (b : Text) :
    (∀ second, Template.parse b = .ok second →
      Template.parse (a ++ b) = .ok (first.append second) ∧
        Template.Joined first second (first.append second)) ∧
    (∀ error, Template.parse b = .error error →
      Template.parse (a ++ b) = .error { error with offset := Text.utf8Size a + error.offset }) ∧
    ∀ second values, Template.parse b = .ok second →
      match Template.expand a values, Template.expand b values with
      | .ok s, .ok t => Template.expand (a ++ b) values = .ok (s ++ t)
      | .error error, _ =>
        (∃ key, error = .missing { key }) ∧ Template.expand (a ++ b) values = .error error
      | .ok _, .error error =>
        (∃ key, error = .missing { key }) ∧ Template.expand (a ++ b) values = .error error := by
  obtain ⟨pieces, h, rfl⟩ := derives_of_parse ha
  have hok {second : Template} (hb : Template.parse b = .ok second) :
      Template.parse (a ++ b) = .ok ((Template.ofPieces pieces).append second) := by
    obtain ⟨others, hother, rfl⟩ := derives_of_parse hb
    rw [(h.append hother).parse_eq, Template.ofPieces_append]
  refine ⟨fun second hb => ⟨hok hb, Template.joined_append ?_ second⟩, fun error hb => ?_,
    fun second values hb => ?_⟩
  · intro segment hsegment
    rintro rfl
    exact h.normal_ofPieces.proper _ hsegment rfl
  · obtain ⟨front, others, s, rfl, hfront, hoffset, hs⟩ := derives_of_parse_error hb
    rw [← List.append_assoc, (h.append hfront).parse_faulty hs, Text.utf8Size_append, ← hoffset]
  · simp only [expand_of_parse ha, expand_of_parse hb, expand_of_parse (hok hb),
      Template.fill_append]
    cases (Template.ofPieces pieces).fill values with
    | error missing => exact ⟨⟨missing.key, rfl⟩, rfl⟩
    | ok s =>
      cases second.fill values with
      | error missing => exact ⟨⟨missing.key, rfl⟩, rfl⟩
      | ok t => rfl

/-- Two literals meet behind a marker; a fault behind them is ten bytes farther along; and of
two keys the second is reported when only the first has a value. -/
theorem parse_append_behind_marker :
    ∃ first second,
      Template.parse "ü%(a)s5%%".toList = .ok first ∧
      Template.parse "!%(b)s".toList = .ok second ∧
      Template.parse ("ü%(a)s5%%".toList ++ "!%(b)s".toList) = .ok (first.append second) ∧
      Template.parse ("ü%(a)s5%%".toList ++ "!%(b)d".toList) =
        .error { offset := 10 + 1, fault := .unsupportedConversion 'd' } ∧
      Template.expand ("ü%(a)s5%%".toList ++ "!%(b)s".toList)
          (Values.ofList [("a".toList, "x".toList)]) =
        .error (.missing { key := "b".toList }) := by
  have ha : Template.parse "ü%(a)s5%%".toList =
      .ok [.literal ['ü'], .placeholder ⟨['a'], ⟨false, none, none⟩, .plain⟩,
        .literal ['5', '%']] := by
    cbv
  have hb : Template.parse "!%(b)s".toList =
      .ok [.literal ['!'], .placeholder ⟨['b'], ⟨false, none, none⟩, .plain⟩] := by
    cbv
  have herror : Template.parse "!%(b)d".toList =
      .error { offset := 1, fault := .unsupportedConversion 'd' } := by
    cbv
  have hleft : Template.expand "ü%(a)s5%%".toList (Values.ofList [("a".toList, "x".toList)]) =
      .ok "üx5%".toList := by
    rw [expand_of_parse ha]
    rfl
  have hright : Template.expand "!%(b)s".toList (Values.ofList [("a".toList, "x".toList)]) =
      .error (.missing { key := "b".toList }) := by
    rw [expand_of_parse hb]
    rfl
  have hexpand := (parse_append ha "!%(b)s".toList).2.2 _
    (Values.ofList [("a".toList, "x".toList)]) hb
  rw [hleft, hright] at hexpand
  exact ⟨_, _, ha, hb, ((parse_append ha _).1 _ hb).1, (parse_append ha _).2.1 _ herror,
    hexpand.2⟩

end SitePress
