import SitePress.Proofs.Template.Filling
import SitePress.Proofs.Text.Quoted

/-!
# Texts that tell their values apart

A value shows in every text that it is put into, if its markers show all of it: with a
width or a precision, different values may look alike.  A quoted value shows where it
begins and ends, so the first marker of the key tells two values apart if it quotes them.
If it does not, then equal texts leave only that one value is the beginning of the other;
but then no block of the longer one is shorter, whatever becomes of its quotes, and the
text comes out longer.
-/

namespace SitePress

variable {conversion : Conversion} {slot : Placeholder} {segment : Segment} {segments : Template}
  {values valuesOther : Values}
  {key value other more front frontOther rest restOther text textOther : Text}

/-! ## Conversions -/

namespace Conversion

/-- What is quoted is told from what follows it. -/
theorem convert_append_inj (hquotes : conversion ≠ .plain)
    (h : conversion.convert value ++ rest = conversion.convert other ++ restOther) :
    value = other := by
  cases conversion with
  | plain => contradiction
  | quoted => exact (Quoted.encode_append_inj h).1
  | ascii => exact (Quoted.encode_append_inj h).1

/-- A longer value is shown by no shorter text. -/
theorem length_convert_le_append (conversion : Conversion) (value more : Text) :
    (conversion.convert value).length ≤ (conversion.convert (value ++ more)).length := by
  cases conversion with
  | plain => simp [convert]
  | quoted => exact Quoted.length_encode_le_append false value more
  | ascii => exact Quoted.length_encode_le_append true value more

end Conversion

/-- Without a width and a precision, a placeholder shows all of a value and nothing else. -/
theorem Placeholder.block_eq_convert (hwidth : slot.layout.width = none)
    (hprecision : slot.layout.precision = none) (value : Text) :
    slot.block value = slot.conversion.convert value := by
  simp [block, Layout.fit, Layout.truncate, Layout.padding, hwidth, hprecision]

/-! ## Values that differ in one key -/

/-- The values give the same to every key but one, to which they may give anything. -/
def Values.AgreeOff (values other : Values) (key : Text) : Prop :=
  ∀ k, k ≠ key → values k = other k

theorem Values.AgreeOff.symm (h : values.AgreeOff valuesOther key) :
    valuesOther.AgreeOff values key :=
  fun k hk => (h k hk).symm

namespace Template

/-- Some placeholder has the key. -/
def Names (segments : Template) (key : Text) : Prop :=
  ∃ slot : Placeholder, .placeholder slot ∈ segments ∧ slot.key = key

/-- No placeholder that has the key has a width or a precision. -/
def ShowsInFull (segments : Template) (key : Text) : Prop :=
  ∀ slot : Placeholder, .placeholder slot ∈ segments → slot.key = key →
    slot.layout.width = none ∧ slot.layout.precision = none

theorem ShowsInFull.tail (h : ShowsInFull (segment :: segments) key) :
    ShowsInFull segments key :=
  fun slot hslot => h slot (List.mem_cons_of_mem _ hslot)

theorem exists_fill_eq_ok
    (h : ∀ slot : Placeholder, .placeholder slot ∈ segments → values slot.key ≠ none) :
    ∃ text, fill values segments = .ok text := by
  cases hfill : fill values segments with
  | ok text => exact ⟨text, rfl⟩
  | error missing =>
    obtain ⟨before, slot, behind, rfl, hkey, hnone, -⟩ := fill_eq_error_iff.1 hfill
    exact absurd (hkey ▸ hnone) (h slot (by simp))

theorem fill_cons_eq_ok_iff :
    fill values (segment :: segments) = .ok text ↔
      ∃ front rest, segment.fill values = .ok front ∧ fill values segments = .ok rest ∧
        text = front ++ rest := by
  simp only [fill, except_bind_eq_ok_iff, exists_and_left, Except.ok.injEq, @eq_comm _ text]

/-- A segment contributes the same for both values, or it shows the value of the key. -/
theorem fill_segment_cases (hsame : values.AgreeOff valuesOther key)
    (hvalue : values key = some value) (hother : valuesOther key = some other)
    (hfull : ShowsInFull (segment :: segments) key)
    (hfront : segment.fill values = .ok front)
    (hfrontOther : segment.fill valuesOther = .ok frontOther) :
    (front = frontOther ∧ ∀ slot, segment = .placeholder slot → slot.key ≠ key) ∨
      ∃ conversion : Conversion,
        front = conversion.convert value ∧ frontOther = conversion.convert other := by
  cases segment with
  | literal text =>
    cases hfront
    cases hfrontOther
    exact .inl ⟨rfl, nofun⟩
  | placeholder slot =>
    by_cases hkey : slot.key = key
    · obtain ⟨hwidth, hprecision⟩ := hfull slot List.mem_cons_self hkey
      simp only [Segment.fill, hkey, hvalue, Except.ok.injEq] at hfront
      simp only [Segment.fill, hkey, hother, Except.ok.injEq] at hfrontOther
      refine .inr ⟨slot.conversion, ?_, ?_⟩
      · rw [← hfront, Placeholder.block_eq_convert hwidth hprecision]
      · rw [← hfrontOther, Placeholder.block_eq_convert hwidth hprecision]
    · simp only [Segment.fill, hsame slot.key hkey] at hfront hfrontOther
      refine .inl ⟨Except.ok.inj (hfront.symm.trans hfrontOther), ?_⟩
      rintro _ ⟨⟩
      exact hkey

theorem length_fill_le (hsame : values.AgreeOff valuesOther key)
    (hvalue : values key = some value) (hother : valuesOther key = some (value ++ more))
    (hfull : ShowsInFull segments key) (hfill : fill values segments = .ok text)
    (hfillOther : fill valuesOther segments = .ok textOther) :
    text.length ≤ textOther.length := by
  induction segments generalizing text textOther with
  | nil =>
    cases hfill
    exact Nat.zero_le _
  | cons segment segments ih =>
    obtain ⟨front, rest, hfront, hrest, rfl⟩ := fill_cons_eq_ok_iff.1 hfill
    obtain ⟨frontOther, restOther, hfrontOther, hrestOther, rfl⟩ :=
      fill_cons_eq_ok_iff.1 hfillOther
    have hlater := ih hfull.tail hrest hrestOther
    have hfirst : front.length ≤ frontOther.length := by
      rcases fill_segment_cases hsame hvalue hother hfull hfront hfrontOther with
        ⟨rfl, -⟩ | ⟨conversion, rfl, rfl⟩
      · exact Nat.le_refl _
      · exact conversion.length_convert_le_append value more
    simp only [List.length_append]
    omega

/-- Values that begin texts which then go on with the later blocks of the same values are the
same: if one went on where the other ends, its later blocks would be no shorter. -/
theorem eq_of_append_fill_eq (hsame : values.AgreeOff valuesOther key)
    (hvalue : values key = some value) (hother : valuesOther key = some other)
    (hfull : ShowsInFull segments key) (hrest : fill values segments = .ok rest)
    (hrestOther : fill valuesOther segments = .ok restOther)
    (heq : value ++ rest = other ++ restOther) : value = other := by
  rcases List.append_eq_append_iff.1 heq with ⟨more, rfl, rfl⟩ | ⟨more, rfl, rfl⟩
  · have hlength := length_fill_le hsame hvalue hother hfull hrest hrestOther
    have hmore : more = [] := by simpa using hlength
    rw [hmore, List.append_nil]
  · have hlength := length_fill_le hsame.symm hother hvalue hfull hrestOther hrest
    have hmore : more = [] := by simpa using hlength
    rw [hmore, List.append_nil]

/-- If all of a value is shown, and shown at least once, then equal texts are made of equal
values. -/
theorem eq_of_fill_eq (hsame : values.AgreeOff valuesOther key)
    (hvalue : values key = some value) (hother : valuesOther key = some other)
    (hnames : Names segments key) (hfull : ShowsInFull segments key)
    (hfill : fill values segments = .ok text) (hfillOther : fill valuesOther segments = .ok text) :
    value = other := by
  induction segments generalizing text with
  | nil =>
    obtain ⟨slot, hslot, -⟩ := hnames
    exact absurd hslot List.not_mem_nil
  | cons segment segments ih =>
    obtain ⟨front, rest, hfront, hrest, rfl⟩ := fill_cons_eq_ok_iff.1 hfill
    obtain ⟨frontOther, restOther, hfrontOther, hrestOther, heq⟩ :=
      fill_cons_eq_ok_iff.1 hfillOther
    rcases fill_segment_cases hsame hvalue hother hfull hfront hfrontOther with
      ⟨rfl, hsegment⟩ | ⟨conversion, rfl, rfl⟩
    · -- the value is shown farther on
      have hnames : Names segments key := by
        obtain ⟨slot, hslot, hkey⟩ := hnames
        rcases List.mem_cons.1 hslot with hfirst | hslot
        · exact absurd hkey (hsegment slot hfirst.symm)
        · exact ⟨slot, hslot, hkey⟩
      obtain rfl := List.append_cancel_left heq
      exact ih hnames hfull.tail hrest hrestOther
    · by_cases hplain : conversion = .plain
      · subst hplain
        exact eq_of_append_fill_eq hsame hvalue hother hfull.tail hrest hrestOther heq
      · exact Conversion.convert_append_inj hplain heq

end Template

end SitePress
