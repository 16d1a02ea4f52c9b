import Mathlib.Data.List.TakeWhile
import SitePress.Proofs.Template.BodyBytes
import SitePress.Proofs.Template.Piece

/-!
# Reading a template byte by byte

A reader over bytes keeps the byte that it has come to, and cuts its input there: turn by turn
it looks for a percent sign, adds up how far behind it the next turn starts, and cuts.  The byte
is always the size of what has been read.  So every cut is at the end of a text, every sum is at
most the size of the input, and a turn takes the stride that the reader by characters takes.

## Main definitions

* `Sweep`, `Sweep.turn?` — a reader by bytes, and one turn of it.
* `Sweep.Reached` — what is held at the start of a turn.
* `Sweep.Ends` — that the turns come to an end, and with which result.
-/

namespace SitePress

variable {bits : Nat} {t : Text}

/-! ## Turns -/

/-- What a reader by bytes holds. -/
structure Sweep where
  segments : Template
  /-- The literal text that is not yet a segment. -/
  literal : Text
  rest : Text
  offset : Nat

inductive Turn
  | done (segments : Template)
  | refused (error : SyntaxError)
  | next (sweep : Sweep)

namespace Sweep

def start (t : Text) : Sweep :=
  { segments := [], literal := [], rest := t, offset := 0 }

/-- Goes on behind the bytes up to and including the percent sign, `front` of them, and those
that belong to it. -/
def advance? (bits : Nat) (sweep : Sweep) (front consumed : Nat) (segments : Template)
    (literal : Text) : Option Turn := do
  let advance ← Numeral.add? bits front consumed
  let offset ← Numeral.add? bits sweep.offset advance
  let rest ← sweep.rest.dropBytes? advance
  return .next { segments, literal, rest, offset }

/-- One turn of the reader.  No result if a sum does not fit in a word, or a cut is out of
range or inside a character. -/
def turn? (bits : Nat) (sweep : Sweep) : Option Turn :=
  match (sweep.rest.positions 0).find? fun place => !Cursor.isPlain place.2 with
  | none => some (.done (sweep.segments ++ Segment.prepend (sweep.literal ++ sweep.rest) []))
  | some (i, _) => do
    let plain ← sweep.rest.takeBytes? i
    let start ← Numeral.add? bits sweep.offset i
    let front ← Numeral.add? bits i 1
    let after ← sweep.rest.dropBytes? front
    let literal := sweep.literal ++ plain
    match after with
    | [] => return .refused { offset := start, fault := .incompleteFormat }
    | c :: _ =>
      if c = '%' then sweep.advance? bits front 1 sweep.segments (literal ++ ['%'])
      else if c = '(' then
        match ← Placeholder.measure? bits after with
        | .error fault => return .refused { offset := start, fault }
        | .ok (slot, consumed) =>
          sweep.advance? bits front consumed
            (sweep.segments ++ Segment.prepend literal [.placeholder slot]) []
      else return .refused { offset := start, fault := .requiresMapping }

/-- What a reader by bytes holds at the start of a turn, when it reads a text. -/
inductive Reached (bits : Nat) (t : Text) : Sweep → Prop
  | start : Reached bits t (start t)
  | next {sweep next : Sweep} (h : Reached bits t sweep)
    (hturn : sweep.turn? bits = some (.next next)) : Reached bits t next

/-- After finitely many turns, each of which has a result, reading ends with this one. -/
inductive Ends (bits : Nat) : Sweep → Except SyntaxError Template → Prop
  | done {sweep : Sweep} {segments : Template}
    (hturn : sweep.turn? bits = some (.done segments)) : Ends bits sweep (.ok segments)
  | refused {sweep : Sweep} {error : SyntaxError}
    (hturn : sweep.turn? bits = some (.refused error)) : Ends bits sweep (.error error)
  | next {sweep next : Sweep} {result : Except SyntaxError Template}
    (hturn : sweep.turn? bits = some (.next next)) (h : Ends bits next result) :
    Ends bits sweep result

/-! ## Strides -/

/-- The place of the reader by characters. -/
def cursor (sweep : Sweep) : Cursor :=
  { offset := sweep.offset, rest := sweep.rest }

/-- What a stride of the reader by characters makes of what the reader by bytes holds. -/
def ofStride (sweep : Sweep) : Except SyntaxError Stride → Turn
  | .error error => .refused error
  | .ok (.finish literal) =>
    .done (sweep.segments ++ Segment.prepend (sweep.literal ++ literal) [])
  | .ok (.percent literal next) =>
    .next
      { segments := sweep.segments
        literal := sweep.literal ++ literal ++ ['%']
        rest := next.rest
        offset := next.offset }
  | .ok (.marker literal slot next) =>
    .next
      { segments := sweep.segments ++ Segment.prepend (sweep.literal ++ literal) [.placeholder slot]
        literal := []
        rest := next.rest
        offset := next.offset }

/-- The percent sign is found where the text that stands for itself ends. -/
private theorem find?_positions (t : Text) :
    ((t.positions 0).find? fun place => !Cursor.isPlain place.2) =
      (t.dropWhile Cursor.isPlain).head?.map
        fun c => (Text.utf8Size (t.takeWhile Cursor.isPlain), c) := by
  rw [List.find?_not_eq_head?_dropWhile, Text.dropWhile_positions, Nat.zero_add]
  cases t.dropWhile Cursor.isPlain <;> rfl

private theorem eq_percent_of_dropWhile {c : Char} {after : Text}
    (h : t.dropWhile Cursor.isPlain = c :: after) : c = '%' := by
  have hstop := List.head?_dropWhile_not Cursor.isPlain t
  rw [h] at hstop
  simpa [Cursor.isPlain] using hstop

/-- In front of a percent sign and behind it a text can be cut, and it has a byte more than
both parts. -/
private theorem cut_at_percent {plain after : Text} (h : plain ++ '%' :: after = t) :
    t.takeBytes? (Text.utf8Size plain) = some plain ∧
      t.dropBytes? (Text.utf8Size plain + 1) = some after ∧
      Text.utf8Size plain + 1 + Text.utf8Size after = Text.utf8Size t := by
  have hpercent : '%'.utf8Size = 1 := rfl
  subst h
  refine ⟨Text.takeBytes?_append _ _, ?_, ?_⟩
  · simpa [hpercent] using Text.dropBytes?_append (plain ++ ['%']) after
  · rw [Text.utf8Size_append, Text.utf8Size_cons, hpercent, Nat.add_assoc]

/-- The reader goes on behind what a turn has taken. -/
private theorem advance?_eq {sweep : Sweep} {front consumed : Nat} {taken rest : Text}
    (hrest : sweep.rest = taken ++ rest) (hsize : front + consumed = Text.utf8Size taken)
    (hfits : sweep.offset + Text.utf8Size sweep.rest < 1 <<< bits) (segments : Template)
    (literal : Text) :
    sweep.advance? bits front consumed segments literal =
      some (.next { segments, literal, rest, offset := sweep.offset + (front + consumed) }) := by
  rw [hrest, Text.utf8Size_append] at hfits
  rw [advance?, Numeral.add?_eq_some (by omega), hsize, Option.bind_eq_bind, Option.bind_some,
    Numeral.add?_eq_some (by omega), Option.bind_eq_bind, Option.bind_some, hrest,
    Text.dropBytes?_append]
  rfl

/-- While the input is not larger than a word, a turn has a result, and it is that of a
stride from the same place. -/
theorem turn?_eq (sweep : Sweep) (hfits : sweep.offset + Text.utf8Size sweep.rest < 1 <<< bits) :
    sweep.turn? bits = some (sweep.ofStride sweep.cursor.stride) := by
  have hsplit := sweep.rest.takeWhile_append_dropWhile (p := Cursor.isPlain)
  rw [turn?, find?_positions, cursor, Cursor.stride]
  cases hdrop : sweep.rest.dropWhile Cursor.isPlain with
  | nil =>
    rw [hdrop, List.append_nil] at hsplit
    simp only [hsplit]
    rfl
  | cons c after =>
    obtain rfl := eq_percent_of_dropWhile hdrop
    rw [hdrop] at hsplit
    generalize sweep.rest.takeWhile Cursor.isPlain = plain at hsplit ⊢
    obtain ⟨hplain, hafter, hsizes⟩ := cut_at_percent hsplit
    have hstart : sweep.offset + Text.utf8Size plain < 1 <<< bits := by omega
    have hfront : Text.utf8Size plain + 1 < 1 <<< bits := by omega
    simp only [List.head?_cons, Option.map_some, hplain, Numeral.add?_eq_some hstart,
      Numeral.add?_eq_some hfront, hafter, Option.bind_eq_bind, Option.bind_some]
    -- both readers now look at what follows the percent sign
    cases after with
    | nil => rfl
    | cons d after =>
      by_cases hdouble : d = '%'
      · subst hdouble
        have hrest : sweep.rest = plain ++ ['%', '%'] ++ after := by simp [← hsplit]
        have hsize : Text.utf8Size plain + 1 + 1 = Text.utf8Size (plain ++ ['%', '%']) := by
          rw [Text.utf8Size_append]
          rfl
        exact advance?_eq hrest hsize hfits _ _
      by_cases hopen : d = '('
      · subst hopen
        have hbody : Text.utf8Size ('(' :: after) < 1 <<< bits := by omega
        simp only [if_neg hdouble, if_true, Placeholder.measure?_eq hbody, Option.bind_some]
        cases hread : Placeholder.read after with
        | error fault => rfl
        | ok body =>
          obtain ⟨taken, rfl, hbodySize⟩ := Placeholder.eq_of_read hread
          have hrest : sweep.rest = plain ++ '%' :: '(' :: taken ++ body.rest := by simp [← hsplit]
          have hsize : Text.utf8Size plain + 1 + body.size =
              Text.utf8Size (plain ++ '%' :: '(' :: taken) := by
            rw [hbodySize, Nat.add_assoc, Text.utf8Size_append]
            rfl
          have hadvance := advance?_eq hrest hsize hfits
            (sweep.segments ++
              Segment.prepend (sweep.literal ++ plain) [.placeholder body.placeholder]) []
          -- the stride adds to its place what the turn adds up first
          rw [← Nat.add_assoc, ← Nat.add_assoc] at hadvance
          exact hadvance
      · simp only [if_neg hdouble, if_neg hopen]
        rfl

end Sweep

/-! ## Strides go forward in bytes -/

/-- The place behind a stride, unless the template ends there. -/
def Stride.next? : Stride → Option Cursor
  | .finish _ => none
  | .percent _ next => some next
  | .marker _ _ next => some next

/-- A stride takes a text of two bytes or more, the percent sign and what follows it, and the
place behind it is that many bytes farther along. -/
theorem Cursor.exists_taken_of_stride {cursor next : Cursor} {stride : Stride}
    (h : cursor.stride = .ok stride) (hnext : stride.next? = some next) :
    ∃ taken, cursor.rest = taken ++ next.rest ∧
      next.offset = cursor.offset + Text.utf8Size taken ∧ 2 ≤ Text.utf8Size taken := by
  have hsplit := cursor.rest.takeWhile_append_dropWhile (p := isPlain)
  unfold Cursor.stride at h
  generalize cursor.rest.takeWhile isPlain = plain at h hsplit
  split at h
  · cases h
    cases hnext
  · cases h
  next c d rest hdrop =>
    obtain rfl := Sweep.eq_percent_of_dropWhile hdrop
    rw [hdrop] at hsplit
    split at h
    next hdouble =>
      subst hdouble
      cases h
      cases hnext
      refine ⟨plain ++ ['%', '%'], by simp [← hsplit], ?_, ?_⟩
      · rw [Text.utf8Size_append, ← Nat.add_assoc]
        rfl
      · rw [Text.utf8Size_append]
        exact Nat.le_add_left 2 _
    split at h
    next hopen =>
      subst hopen
      split at h
      · cases h
      next body hread =>
        cases h
        cases hnext
        obtain ⟨taken, rfl, hsize⟩ := Placeholder.eq_of_read hread
        refine ⟨plain ++ '%' :: '(' :: taken, by simp [← hsplit], ?_, ?_⟩
        · rw [hsize, Text.utf8Size_append, Text.utf8Size_cons '%', ← Nat.add_assoc,
            ← Nat.add_assoc]
          rfl
        · rw [Text.utf8Size_append, Text.utf8Size_cons '%', Text.utf8Size_cons '(']
          have hsizes : '%'.utf8Size = 1 ∧ '('.utf8Size = 1 := ⟨rfl, rfl⟩
          omega
    · cases h

namespace Sweep

/-- A turn that goes on is a stride that does. -/
theorem ofStride_eq_next {sweep next : Sweep} {found : Except SyntaxError Stride}
    (h : sweep.ofStride found = .next next) :
    ∃ stride, found = .ok stride ∧ stride.next? = some next.cursor := by
  cases found with
  | error error => cases h
  | ok stride =>
    refine ⟨stride, rfl, ?_⟩
    cases stride with
    | finish literal => cases h
    | percent literal place =>
      cases h
      rfl
    | marker literal slot place =>
      cases h
      rfl

/-! ## The end -/

private theorem prepend_placeholder_append (text : Text) (slot : Placeholder)
    (behind : Template) :
    Segment.prepend text [.placeholder slot] ++ behind =
      Segment.prepend text (.placeholder slot :: behind) := by
  by_cases htext : text = [] <;> simp [Segment.prepend, htext]

/-- The turns come to an end, with the segments that the reader by characters finds from the
same place on, behind those that are complete. -/
theorem ends (sweep : Sweep) (hfits : sweep.offset + Text.utf8Size sweep.rest < 1 <<< bits) :
    Ends bits sweep (sweep.cursor.segments.map fun behind =>
      sweep.segments ++ Segment.prepend sweep.literal behind) := by
  -- each turn takes two bytes, so fewer are left
  induction hn : Text.utf8Size sweep.rest using Nat.strongRecOn generalizing sweep with
  | _ size ih =>
    have hturn := turn?_eq sweep hfits
    rw [Cursor.segments_eq]
    cases hstride : sweep.cursor.stride with
    | error error =>
      rw [hstride] at hturn
      exact .refused hturn
    | ok stride =>
      have hnext : ∀ next : Sweep, stride.next? = some next.cursor →
          Ends bits next (next.cursor.segments.map fun behind =>
            next.segments ++ Segment.prepend next.literal behind) := by
        intro next hnext
        obtain ⟨taken, hrest, hoffset, htwo⟩ := Cursor.exists_taken_of_stride hstride hnext
        have hsizes := congrArg Text.utf8Size hrest
        rw [Text.utf8Size_append] at hsizes
        simp only [cursor] at hsizes hoffset
        exact ih (Text.utf8Size next.rest) (by omega) next (by omega) rfl
      rw [hstride] at hturn
      cases stride with
      | finish literal =>
        have hends := Ends.done hturn
        rw [← Segment.prepend_prepend] at hends
        exact hends
      | percent literal place =>
        have hends := Ends.next hturn (hnext _ rfl)
        simp only [except_map_map, Segment.prepend_prepend]
        simp only [List.append_assoc] at hends
        exact hends
      | marker literal slot place =>
        have hends := Ends.next hturn (hnext _ rfl)
        simp only [except_map_map, Segment.prepend_prepend]
        simp only [Segment.prepend_nil, List.append_assoc, prepend_placeholder_append] at hends
        exact hends

/-! ## Reached places -/

/-- What carries a reading by bytes: the bytes come to are those of the text read. -/
theorem Reached.exists_front {sweep : Sweep} (hfits : Text.utf8Size t < 1 <<< bits)
    (h : Reached bits t sweep) :
    ∃ front, t = front ++ sweep.rest ∧ sweep.offset = Text.utf8Size front := by
  induction h with
  | start => exact ⟨[], rfl, rfl⟩
  | @next sweep next _ hturn ih =>
    obtain ⟨front, rfl, hoffset⟩ := ih
    rw [Text.utf8Size_append] at hfits
    rw [turn?_eq sweep (by omega)] at hturn
    obtain ⟨stride, hstride, hnext⟩ := ofStride_eq_next (Option.some.inj hturn)
    obtain ⟨taken, hrest, hplace, -⟩ := Cursor.exists_taken_of_stride hstride hnext
    refine ⟨front ++ taken, ?_, ?_⟩
    · rw [List.append_assoc]
      exact congrArg (front ++ ·) hrest
    · rw [Text.utf8Size_append, ← hoffset]
      exact hplace

end Sweep

/-- A text that is not larger than a word is read by bytes without going wrong, and as by
characters.  At the start of each turn the text that is left is the input from the byte on
that has been come to, which is in range and at the start of a character; the turn has a
result, so that its sums fit and its cuts are sound, and this is a stride; and when it goes
on it has taken two bytes or more.  So the turns come to an end.  Wherever a marker may start,
its body is read without going wrong, and the size that is told is that of the marker as it
is written, less the percent sign. -/
theorem Template.parse_by_bytes (bits : Nat) (t : Text) (hfits : Text.utf8Size t < 1 <<< bits) :
    (∀ sweep, Sweep.Reached bits t sweep →
      sweep.offset ≤ Text.utf8Size t ∧
      t.dropBytes? sweep.offset = some sweep.rest ∧
      (Text.encode t).extract sweep.offset (Text.utf8Size t) = Text.encode sweep.rest ∧
      sweep.turn? bits = some (sweep.ofStride sweep.cursor.stride) ∧
      ∀ next, sweep.turn? bits = some (.next next) → sweep.offset + 2 ≤ next.offset) ∧
    Sweep.Ends bits (.start t) (Template.parse t) ∧
    ∀ front s, t = front ++ '%' :: '(' :: s →
      Placeholder.measure? bits ('(' :: s) =
        some ((Placeholder.read s).map fun body => (body.placeholder, body.size)) ∧
      ∀ slot size, Placeholder.measure? bits ('(' :: s) = some (.ok (slot, size)) →
        ∃ (marker : Marker) (rest : Text), marker.WellFormed ∧
          '%' :: '(' :: s = marker.text ++ rest ∧ marker.placeholder = slot ∧
          1 + size = Text.utf8Size marker.text := by
  refine ⟨fun sweep hreached => ?_, ?_, fun front s hsplit => ?_⟩
  · obtain ⟨front, hsplit, hoffset⟩ := hreached.exists_front hfits
    have hsize : sweep.offset + Text.utf8Size sweep.rest = Text.utf8Size t := by
      rw [hoffset, hsplit, Text.utf8Size_append]
    have hturn := sweep.turn?_eq (hsize ▸ hfits)
    refine ⟨by omega, ?_, ?_, hturn, fun next hnext => ?_⟩
    · rw [hoffset, hsplit]
      exact Text.dropBytes?_append front sweep.rest
    · rw [hoffset, hsplit]
      exact Text.extract_encode front sweep.rest
    · rw [hturn] at hnext
      obtain ⟨stride, hstride, hplace⟩ := Sweep.ofStride_eq_next (Option.some.inj hnext)
      obtain ⟨taken, -, htaken, htwo⟩ := Cursor.exists_taken_of_stride hstride hplace
      simp only [Sweep.cursor] at htaken
      omega
  · have hstart : (Sweep.start t).offset + Text.utf8Size (Sweep.start t).rest < 1 <<< bits := by
      rwa [Sweep.start, Nat.zero_add]
    have hends := (Sweep.start t).ends hstart
    simp only [Sweep.start, List.nil_append, Segment.prepend_nil] at hends
    have hparse : (Template.parse t).map (fun segments => segments) = Template.parse t :=
      congrFun Except.map_id _
    rw [← hparse]
    exact hends
  · have hbody : Text.utf8Size ('(' :: s) < 1 <<< bits := by
      rw [hsplit, Text.utf8Size_append, Text.utf8Size_cons '%'] at hfits
      omega
    exact ⟨Placeholder.measure?_eq hbody, fun slot size => Placeholder.measure?_eq_ok hbody⟩

/-- Literal text, a doubled percent sign and a marker, with characters of two bytes in the
text and in the key. -/
private def accented : Text :=
  ['é', '%', '%', '%', '(', 'ü', ')', 's']

/-- What is held when the doubled percent sign has been read. -/
private def behindDoubled : Sweep :=
  { segments := [], literal := ['é', '%'], rest := ['%', '(', 'ü', ')', 's'], offset := 4 }

/-- The second turn over the text starts at byte four, the turns end, and of the marker all but
the percent sign is five bytes. -/
theorem Template.parse_by_bytes_accented :
    Text.utf8Size accented < 1 <<< 64 ∧
    Sweep.Reached 64 accented behindDoubled ∧
    accented.dropBytes? 4 = some behindDoubled.rest ∧
    Sweep.Ends 64 (.start accented) (Template.parse accented) ∧
    ∃ (marker : Marker) (rest : Text), marker.WellFormed ∧
      behindDoubled.rest = marker.text ++ rest ∧ 1 + 5 = Text.utf8Size marker.text := by
  have hfits : Text.utf8Size accented < 1 <<< 64 := by decide
  obtain ⟨hturns, hends, hmarkers⟩ := Template.parse_by_bytes 64 accented hfits
  have hreached : Sweep.Reached 64 accented behindDoubled := .next .start rfl
  obtain ⟨-, hrest, -⟩ := hturns behindDoubled hreached
  obtain ⟨-, hmarker⟩ := hmarkers ['é', '%', '%'] ['ü', ')', 's'] rfl
  obtain ⟨marker, rest, hwell, heq, -, hsize⟩ :=
    hmarker ⟨['ü'], ⟨false, none, none⟩, .plain⟩ 5 rfl
  exact ⟨hfits, hreached, hrest, hends, marker, rest, hwell, heq, hsize⟩

end SitePress
