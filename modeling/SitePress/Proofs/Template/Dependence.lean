import Mathlib
import SitePress.Proofs.Template.Sensitivity

/-!
# What an expansion depends on

A template asks for the keys of its markers, in the order in which they are written, and for no
others.  So what it expands to depends on the values of these keys alone; and whether it expands
at all, and which key is reported if it does not, depends on which of them have a value.  All
these keys are balanced, so a value for another one is of no use to any template.

## Main definitions

* `Template.keys` — the keys of a template, in order.
* `Template.AsksFor` — that a text is a template with these keys.
-/

namespace SitePress

variable {segments : Template} {values other : Values} {t key : Text} {asked : List Text}

/-! ## Keys -/

def Piece.key? : Piece → Option Text
  | .char _ => none
  | .percent => none
  | .marker m => some m.key

/-- The key of a placeholder. -/
def Segment.key? : Segment → Option Text
  | .literal _ => none
  | .placeholder slot => some slot.key

namespace Template

/-- The keys of a template, in the order of its placeholders. -/
def keys (segments : Template) : List Text :=
  segments.filterMap Segment.key?

/-- The text is a template, and its markers have these keys, in this order. -/
def AsksFor (t : Text) (asked : List Text) : Prop :=
  ∃ pieces, Derives t pieces ∧ pieces.filterMap Piece.key? = asked

@[simp] theorem keys_literal_cons (text : Text) (segments : Template) :
    keys (.literal text :: segments) = keys segments := rfl

@[simp] theorem keys_placeholder_cons (slot : Placeholder) (segments : Template) :
    keys (.placeholder slot :: segments) = slot.key :: keys segments := rfl

theorem mem_keys_iff : key ∈ keys segments ↔ Names segments key := by
  simp only [keys, Names, List.mem_filterMap]
  constructor
  · rintro ⟨segment, hsegment, hkey⟩
    cases segment with
    | literal text => cases hkey
    | placeholder slot => exact ⟨slot, hsegment, Option.some.inj hkey⟩
  · rintro ⟨slot, hslot, rfl⟩
    exact ⟨.placeholder slot, hslot, rfl⟩

theorem keys_prepend (text : Text) (segments : Template) :
    keys (Segment.prepend text segments) = keys segments := by
  unfold Segment.prepend
  split
  · rfl
  · split
    · rfl
    · rfl

theorem keys_ofPieces (pieces : List Piece) :
    keys (ofPieces pieces) = pieces.filterMap Piece.key? := by
  induction pieces with
  | nil => rfl
  | cons piece pieces ih =>
    cases piece with
    | char c => exact (keys_prepend [c] (ofPieces pieces)).trans ih
    | percent => exact (keys_prepend ['%'] (ofPieces pieces)).trans ih
    | marker m => exact congrArg (m.key :: ·) ih

/-- The keys of the markers in a text are those of the template that is read from it. -/
theorem asksFor_iff :
    AsksFor t asked ↔ ∃ segments, parse t = .ok segments ∧ segments.keys = asked := by
  constructor
  · rintro ⟨pieces, h, rfl⟩
    exact ⟨_, h.parse_eq, keys_ofPieces pieces⟩
  · rintro ⟨segments, hparse, rfl⟩
    obtain ⟨pieces, h, rfl⟩ := derives_of_parse hparse
    exact ⟨pieces, h, (keys_ofPieces pieces).symm⟩

/-- A marker of the text has a balanced key. -/
theorem AsksFor.balanced (h : AsksFor t asked) (hkey : key ∈ asked) : Key.Balanced key := by
  obtain ⟨pieces, h, rfl⟩ := h
  obtain ⟨piece, hpiece, hmarker⟩ := List.mem_filterMap.1 hkey
  cases piece with
  | char c => cases hmarker
  | percent => cases hmarker
  | marker m =>
    obtain rfl := Option.some.inj hmarker
    exact (h.wellFormed _ hpiece).key

/-- The first key without a value is found among the keys alone. -/
theorem firstMissing_iff_keys :
    FirstMissing values segments key ↔
      ∃ front behind, keys segments = front ++ key :: behind ∧ values key = none ∧
        ∀ earlier ∈ front, values earlier ≠ none := by
  induction segments with
  | nil => simp [FirstMissing, keys]
  | cons segment segments ih =>
    rw [firstMissing_cons_iff, ih]
    cases segment with
    | literal text => simp
    | placeholder slot =>
      rw [keys_placeholder_cons]
      constructor
      · rintro (⟨_, ⟨⟩, rfl, hnone⟩ | ⟨hslot, front, behind, hsplit, hnone, hearlier⟩)
        · exact ⟨[], keys segments, rfl, hnone, by simp⟩
        · refine ⟨slot.key :: front, behind, by rw [hsplit]; rfl, hnone, ?_⟩
          exact List.forall_mem_cons.2 ⟨hslot slot rfl, hearlier⟩
      · rintro ⟨front, behind, hsplit, hnone, hearlier⟩
        cases front with
        | nil =>
          obtain ⟨hkey, -⟩ := List.cons_eq_cons.1 hsplit
          exact .inl ⟨slot, rfl, hkey, hnone⟩
        | cons first front =>
          obtain ⟨rfl, hrest⟩ := List.cons_eq_cons.1 hsplit
          obtain ⟨hslot, hfront⟩ := List.forall_mem_cons.1 hearlier
          refine .inr ⟨?_, front, behind, hrest, hnone, hfront⟩
          rintro _ ⟨⟩
          exact hslot

/-! ## Values that agree on the keys -/

theorem fill_congr (h : ∀ key ∈ keys segments, values key = other key) :
    fill values segments = fill other segments := by
  induction segments with
  | nil => rfl
  | cons segment segments ih =>
    cases segment with
    | literal text => rw [fill_literal_cons, fill_literal_cons, ih h]
    | placeholder slot =>
      obtain ⟨hslot, hrest⟩ := List.forall_mem_cons.1 h
      rw [fill_placeholder_cons, fill_placeholder_cons, hslot, ih hrest]

/-- A text expands alike, or fails alike, with values that give the same to its keys. -/
theorem expand_congr (h : ∀ asked, AsksFor t asked → ∀ key ∈ asked, values key = other key) :
    expand t values = expand t other := by
  cases hparse : parse t with
  | error error => rw [expand_of_parse_error hparse, expand_of_parse_error hparse]
  | ok segments =>
    have hkeys := h _ (asksFor_iff.2 ⟨segments, hparse, rfl⟩)
    rw [expand_of_parse hparse, expand_of_parse hparse, fill_congr hkeys]

theorem expand_eq_error_of_keys
    (h : ∀ asked, AsksFor t asked → ∀ key ∈ asked, (values key = none ↔ other key = none))
    {error : TemplateError} (hexpand : expand t values = .error error) :
    expand t other = .error error := by
  refine expand_eq_error_congr (fun segments hparse slot hslot => ?_) hexpand
  exact h _ (asksFor_iff.2 ⟨segments, hparse, rfl⟩) _ (mem_keys_iff.2 ⟨slot, hslot, rfl⟩)

/-- A missing value is reported for the first key of a template that has none. -/
theorem expand_eq_missing_iff_keys :
    expand t values = .error (.missing { key }) ↔
      ∃ front behind, AsksFor t (front ++ key :: behind) ∧ values key = none ∧
        ∀ earlier ∈ front, values earlier ≠ none := by
  rw [expand_eq_missing_iff]
  constructor
  · rintro ⟨segments, hparse, hmissing⟩
    obtain ⟨front, behind, hkeys, hfirst⟩ := firstMissing_iff_keys.1 hmissing
    exact ⟨front, behind, asksFor_iff.2 ⟨segments, hparse, hkeys⟩, hfirst⟩
  · rintro ⟨front, behind, hasks, hfirst⟩
    obtain ⟨segments, hparse, hkeys⟩ := asksFor_iff.1 hasks
    exact ⟨segments, hparse, firstMissing_iff_keys.2 ⟨front, behind, hkeys, hfirst⟩⟩

/-- Of all values, only those of the keys that a text asks for decide what it expands to; and
only which of these keys have a value decides whether it expands, and with which error it fails
if it does not.  That is the fault of the text if it has one, wherever this is and whatever keys
in front of it have no value, and otherwise the first key without a value. -/
theorem expand_determined_by_keys (t : Text) :
    (∀ values other : Values,
      (∀ asked, AsksFor t asked → ∀ key ∈ asked, values key = other key) →
      expand t values = expand t other) ∧
    (∀ values other : Values,
      (∀ asked, AsksFor t asked → ∀ key ∈ asked, (values key = none ↔ other key = none)) →
      (∃ text textOther, expand t values = .ok text ∧ expand t other = .ok textOther) ∨
        ∃ error, expand t values = .error error ∧ expand t other = .error error) ∧
    (∀ (values : Values) (key : Text),
      expand t values = .error (.missing { key }) ↔
        (∃ segments, parse t = .ok segments) ∧
          ∃ front behind, AsksFor t (front ++ key :: behind) ∧ values key = none ∧
            ∀ earlier ∈ front, values earlier ≠ none) ∧
    ∀ (values : Values) (error : SyntaxError),
      expand t values = .error (.malformed error) ↔ parse t = .error error := by
  refine ⟨fun values other => expand_congr, fun values other hkeys => ?_,
    fun values key => ?_, fun values error => expand_eq_malformed_iff⟩
  · -- an error that one of the two has is one of the other, so they succeed together as well
    have hkeys' := fun asked hasks key hkey => (hkeys asked hasks key hkey).symm
    cases hexpand : expand t values with
    | error error => exact .inr ⟨error, rfl, expand_eq_error_of_keys hkeys hexpand⟩
    | ok text =>
      cases hexpandOther : expand t other with
      | ok textOther => exact .inl ⟨text, textOther, rfl, rfl⟩
      | error error =>
        rw [expand_eq_error_of_keys hkeys' hexpandOther] at hexpand
        cases hexpand
  · rw [expand_eq_missing_iff_keys]
    constructor
    · rintro ⟨front, behind, hasks, hfirst⟩
      obtain ⟨segments, hparse, -⟩ := asksFor_iff.1 hasks
      exact ⟨⟨segments, hparse⟩, front, behind, hasks, hfirst⟩
    · rintro ⟨-, hmissing⟩
      exact hmissing

/-- Of four markers, the third repeats the key of the first; a value for a fifth key is not looked
at, other values for the first key do not help the second, and a fault behind two keys without a
value is what is reported. -/
theorem expand_determined_by_keys_repeated :
    expand "%(a)s%(b).1r%(a)5s%(c)a".toList (Values.ofList [(['a'], ['x']), (['b'], ['y']),
        (['c'], ['z']), (['d'], ['w'])]) =
      expand "%(a)s%(b).1r%(a)5s%(c)a".toList (Values.ofList [(['c'], ['z']), (['b'], ['y']),
        (['a'], ['x'])]) ∧
    expand "%(a)s%(b).1r%(a)5s%(c)a".toList (Values.ofList [(['a'], ['x'])]) =
      .error (.missing { key := ['b'] }) ∧
    expand "%(a)s%(b).1r%(a)5s%(c)a".toList (Values.ofList [(['d'], ['w']), (['a'], ['%'])]) =
      .error (.missing { key := ['b'] }) ∧
    expand "%(a)s%(b)s%(c)d".toList (Values.ofList [(['c'], ['z'])]) =
      .error (.malformed { offset := 10, fault := .unsupportedConversion 'd' }) := by
  have hparse : parse "%(a)s%(b).1r%(a)5s%(c)a".toList =
      .ok [.placeholder ⟨['a'], ⟨false, none, none⟩, .plain⟩,
        .placeholder ⟨['b'], ⟨false, none, some 1⟩, .quoted⟩,
        .placeholder ⟨['a'], ⟨false, some 5, none⟩, .plain⟩,
        .placeholder ⟨['c'], ⟨false, none, none⟩, .ascii⟩] := by
    cbv
  have hfaulty : parse "%(a)s%(b)s%(c)d".toList =
      .error { offset := 10, fault := .unsupportedConversion 'd' } := by
    cbv
  have hasks : AsksFor "%(a)s%(b).1r%(a)5s%(c)a".toList [['a'], ['b'], ['a'], ['c']] :=
    asksFor_iff.2 ⟨_, hparse, rfl⟩
  have honly : ∀ asked, AsksFor "%(a)s%(b).1r%(a)5s%(c)a".toList asked →
      asked = [['a'], ['b'], ['a'], ['c']] := by
    intro asked h
    obtain ⟨segments, hsegments, rfl⟩ := asksFor_iff.1 h
    rw [hparse] at hsegments
    cases hsegments
    rfl
  obtain ⟨hsame, halike, hmissing, -⟩ := expand_determined_by_keys "%(a)s%(b).1r%(a)5s%(c)a".toList
  have hfirst := (hmissing (Values.ofList [(['a'], ['x'])]) ['b']).2
    ⟨⟨_, hparse⟩, [['a']], [['a'], ['c']], hasks, by decide, by decide⟩
  refine ⟨hsame _ _ fun asked h => ?_, hfirst, ?_, ?_⟩
  · rw [honly asked h]
    decide
  · obtain ⟨_, _, hok, -⟩ | ⟨error, herror, hother⟩ := halike (Values.ofList [(['a'], ['x'])])
        (Values.ofList [(['d'], ['w']), (['a'], ['%'])]) fun asked h => by
      rw [honly asked h]
      decide
    · rw [hfirst] at hok
      cases hok
    · rw [hother, ← herror, hfirst]
  · exact ((expand_determined_by_keys _).2.2.2 _ _).2 hfaulty

/-! ## Normal form -/

/-- What is read from a text is in normal form. -/
theorem normal_of_parse (h : parse t = .ok segments) : Normal segments := by
  obtain ⟨pieces, hpieces, rfl⟩ := derives_of_parse h
  exact hpieces.normal_ofPieces

/-- Values that differ in a key that is not balanced agree on all keys of any template. -/
theorem AsksFor.agree_of_not_balanced (h : AsksFor t asked) (hkey : ¬ Key.Balanced key)
    (hsame : values.AgreeOff other key) : ∀ k ∈ asked, values k = other k := by
  intro k hk
  refine hsame k ?_
  rintro rfl
  exact hkey (h.balanced hk)

/-- What is read from a text is in normal form: it has no empty literal and no two of them side by
side, its keys are balanced, and its widths and precisions are in their bounds.  So no text can
ask for a key that is not balanced, and a value for such a key changes neither what a text
expands to nor what the template that is read from it fills to. -/
theorem parse_yields_normal :
    (∀ (t : Text) (segments : Template), parse t = .ok segments → Normal segments) ∧
    ∀ key : Text, ¬ Key.Balanced key → ∀ (t : Text) (values other : Values),
      values.AgreeOff other key →
      expand t values = expand t other ∧
        ∀ segments, parse t = .ok segments → fill values segments = fill other segments := by
  refine ⟨fun t segments => normal_of_parse, fun key hkey t values other hsame => ⟨?_, ?_⟩⟩
  · exact expand_congr fun asked hasks => hasks.agree_of_not_balanced hkey hsame
  · intro segments hparse
    have hasks := asksFor_iff.2 ⟨segments, hparse, rfl⟩
    exact fill_congr (hasks.agree_of_not_balanced hkey hsame)

/-- A percent sign in front of a marker and text behind it are a literal each, zeros in front of
the width are flags, and a parenthesis that closes nothing is no key of a template. -/
theorem parse_yields_normal_nested :
    Normal [.literal "50%".toList,
      .placeholder ⟨"a(b)".toList, ⟨true, some 5, some 0⟩, .quoted⟩, .literal "%)".toList] ∧
    expand "50%%%(a(b))-005.r%%)".toList
        (Values.ofList [(")(".toList, "x".toList), ("a(b)".toList, "y".toList)]) =
      expand "50%%%(a(b))-005.r%%)".toList (Values.ofList [("a(b)".toList, "y".toList)]) := by
  have hparse : parse "50%%%(a(b))-005.r%%)".toList = .ok [.literal "50%".toList,
      .placeholder ⟨"a(b)".toList, ⟨true, some 5, some 0⟩, .quoted⟩, .literal "%)".toList] := by
    cbv
  have hkey : ¬ Key.Balanced ")(".toList := by
    intro h
    exact absurd (h.opened [')'] ⟨['('], rfl⟩) (by decide)
  have hsame : (Values.ofList [(")(".toList, "x".toList), ("a(b)".toList, "y".toList)]).AgreeOff
      (Values.ofList [("a(b)".toList, "y".toList)]) ")(".toList := by
    intro k hk
    have hfirst : (k == ")(".toList) = false := beq_false_of_ne hk
    simp only [Values.ofList, List.lookup, hfirst]
  obtain ⟨hnormal, hblind⟩ := parse_yields_normal
  exact ⟨hnormal _ _ hparse, (hblind _ hkey _ _ _ hsame).1⟩

end Template

end SitePress
