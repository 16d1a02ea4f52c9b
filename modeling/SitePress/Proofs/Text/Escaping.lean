import Mathlib.Algebra.Ring.Parity
import Mathlib.Data.List.DropRight
import SitePress.Proofs.Text.Ascii

/-!
# What a quoted form contains

A character of a quoted form is escaped if an odd number of backslashes stands directly in front
of it.  Whatever is written for a character of the value, the backslashes that it ends in are even
in number if those in front of it are; so each character is written where nothing is escaped, and
of the quotes that it adds those that are escaped are the delimiters.

## Main definitions

* `Quoted.backslashes` — how many backslashes are at the end of a text.
* `Quoted.Undisturbed` — that a text, put behind another one, escapes delimiters and no other
  quotes, and nothing that comes behind it.

## Main statements

* `Quoted.undisturbed_escape`, `Quoted.undisturbed_body` — one character of a value, and all.
* `Quoted.encode_contents` — which characters and which escaped quotes a quoted form has.
-/

namespace SitePress.Quoted

variable {ascii : Bool} {c d : Char} {front s t value : Text}

/-! ## Counting backslashes -/

/-- The length of the run of backslashes at the end of a text. -/
def backslashes (t : Text) : Nat :=
  (t.rtakeWhile (· = '\\')).length

theorem backslashes_concat_backslash (t : Text) :
    backslashes (t ++ ['\\']) = backslashes t + 1 := by
  rw [backslashes, List.rtakeWhile_concat_pos _ _ _ (by decide), List.length_append]
  rfl

theorem backslashes_concat (hc : c ≠ '\\') (t : Text) : backslashes (t ++ [c]) = 0 := by
  rw [backslashes, List.rtakeWhile_concat_neg _ _ _ (by simpa using hc), List.length_nil]

theorem even_backslashes_append (hfront : Even (backslashes front)) (ht : ∀ c ∈ t, c ≠ '\\') :
    Even (backslashes (front ++ t)) := by
  cases t using List.reverseRecOn with
  | nil => rwa [List.append_nil]
  | append_singleton t c =>
    rw [← List.append_assoc, backslashes_concat (ht c (by simp))]
    exact Even.zero

/-! ## Undisturbed readers -/

/-- Behind `front`, the text escapes nothing that comes behind it, and of its quotes those that
are `d` are escaped and no others. -/
structure Undisturbed (d : Char) (front t : Text) : Prop where
  closed : Even (backslashes (front ++ t))
  quotes : ∀ before q behind, t = before ++ q :: behind → q = '\'' ∨ q = '"' →
    (Odd (backslashes (front ++ before)) ↔ q = d)

theorem undisturbed_nil (hfront : Even (backslashes front)) : Undisturbed d front [] where
  closed := by rwa [List.append_nil]
  quotes := by
    intro before q behind h
    exact absurd h.symm (List.append_ne_nil_of_right_ne_nil _ (List.cons_ne_nil _ _))

theorem Undisturbed.append (hs : Undisturbed d front s) (ht : Undisturbed d (front ++ s) t) :
    Undisturbed d front (s ++ t) where
  closed := by
    rw [← List.append_assoc]
    exact ht.closed
  quotes := by
    intro before q behind h hq
    obtain ⟨more, rfl, hmore⟩ | ⟨more, rfl, hmore⟩ := List.append_eq_append_iff.1 h
    · rw [← List.append_assoc]
      exact ht.quotes more q behind hmore hq
    · cases more with
      | nil =>
        have hquote := ht.quotes [] q behind hmore.symm hq
        rwa [List.append_nil, List.append_nil] at hquote
      | cons e more =>
        obtain ⟨rfl, -⟩ := List.cons.inj hmore
        exact hs.quotes before q more rfl hq

/-- A character that is neither a backslash nor the delimiter disturbs nothing. -/
theorem undisturbed_plain (hfront : Even (backslashes front)) (hbackslash : c ≠ '\\')
    (hdelimiter : c ≠ d) : Undisturbed d front [c] where
  closed := by
    rw [backslashes_concat hbackslash]
    exact Even.zero
  quotes := by
    intro before q behind h _
    obtain ⟨rfl, hq⟩ | ⟨more, rfl, hmore⟩ := List.cons_eq_append_iff.1 h
    · obtain ⟨rfl, -⟩ := List.cons.inj hq
      rw [List.append_nil]
      exact iff_of_false (Nat.not_odd_iff_even.2 hfront) hdelimiter
    · exact absurd hmore.symm (List.append_ne_nil_of_right_ne_nil _ (List.cons_ne_nil _ _))

/-- A backslash escapes the letter behind it, which is no quote unless it is the delimiter, and
nothing behind that. -/
theorem undisturbed_code (hfront : Even (backslashes front)) {letter : Char} {digits : Text}
    (hletter : letter = '\'' ∨ letter = '"' → letter = d)
    (hdigits : ∀ digit ∈ digits, digit ≠ '\\' ∧ digit ≠ '\'' ∧ digit ≠ '"') :
    Undisturbed d front ('\\' :: letter :: digits) where
  closed := by
    have hpair : Even (backslashes (front ++ ['\\'] ++ [letter])) := by
      by_cases h : letter = '\\'
      · rw [h, backslashes_concat_backslash, backslashes_concat_backslash]
        exact hfront.add (by decide : Even 2)
      · rw [backslashes_concat h]
        exact Even.zero
    have happend := even_backslashes_append hpair fun digit hdigit => (hdigits digit hdigit).1
    simpa using happend
  quotes := by
    intro before q behind h hq
    obtain ⟨rfl, hhead⟩ | ⟨before, rfl, hbehind⟩ := List.cons_eq_append_iff.1 h
    · obtain ⟨rfl, -⟩ := List.cons.inj hhead
      exact absurd hq (by decide)
    obtain ⟨rfl, hhead⟩ | ⟨before, rfl, hbehind⟩ := List.cons_eq_append_iff.1 hbehind
    · obtain ⟨rfl, -⟩ := List.cons.inj hhead
      rw [backslashes_concat_backslash]
      exact iff_of_true hfront.add_one (hletter hq)
    · have hmem : q ∈ digits := by
        rw [(List.cons.inj hbehind).2]
        exact List.mem_append_right _ List.mem_cons_self
      obtain ⟨-, hsingle, hdouble⟩ := hdigits q hmem
      exact absurd hq (not_or.2 ⟨hsingle, hdouble⟩)

theorem ne_of_mem_lowerCase (h : c ∈ Hexadecimal.lowerCase) :
    c ≠ '\\' ∧ c ≠ '\'' ∧ c ≠ '"' := by
  refine ⟨?_, ?_, ?_⟩ <;> rintro rfl <;> revert h <;> decide

theorem undisturbed_escape (hd : d = '\'' ∨ d = '"') (hfront : Even (backslashes front))
    (ascii : Bool) (c : Char) : Undisturbed d front (escape ascii d c) := by
  have hwritten := written_escape ascii hd c
  generalize escape ascii d c = t at hwritten ⊢
  cases hwritten with
  | plain hbackslash hdelimiter => exact undisturbed_plain hfront hbackslash hdelimiter
  | named _ hquote => exact undisturbed_code hfront hquote (by simp)
  | coded =>
    obtain ⟨letter, digits, hcode, hletter, hdigits⟩ :=
      (writesCodePoint_byCodePoint c).exists_letter
    rw [hcode]
    refine undisturbed_code hfront ?_ fun digit hdigit => ne_of_mem_lowerCase (hdigits digit hdigit)
    obtain rfl | rfl | rfl := hletter <;> exact fun h => absurd h (by decide)

/-- Behind an even number of backslashes, a whole value is written without disturbance. -/
theorem undisturbed_body (hd : d = '\'' ∨ d = '"') (hfront : Even (backslashes front))
    (ascii : Bool) (value : Text) : Undisturbed d front (value.flatMap (escape ascii d)) := by
  induction value generalizing front with
  | nil => exact undisturbed_nil hfront
  | cons c value ih =>
    have hescape := undisturbed_escape hd hfront ascii c
    rw [List.flatMap_cons]
    exact hescape.append (ih hescape.closed)

/-! ## Delimiters -/

theorem delimiter_mem_iff : delimiter value ∈ value ↔ '\'' ∈ value ∧ '"' ∈ value := by
  unfold delimiter
  split
  next h => exact iff_of_false h.2 fun hboth => h.2 hboth.2
  next h =>
    constructor
    · intro hsingle
      exact ⟨hsingle, not_not.1 fun hdouble => h ⟨hsingle, hdouble⟩⟩
    · exact And.left

theorem named?_eq_delimiter_iff (hd : d = '\'' ∨ d = '"') {letter : Char} :
    named? letter = some d ↔ letter = d := by
  obtain rfl | rfl := hd <;> simp [named?] <;> grind

/-- The delimiter is written for itself only. -/
theorem delimiter_mem_escape_iff (hd : d = '\'' ∨ d = '"') :
    d ∈ escape ascii d c ↔ c = d := by
  have hbackslash : d ≠ '\\' := by obtain rfl | rfl := hd <;> decide
  have hwritten := written_escape ascii hd c
  generalize escape ascii d c = t at hwritten ⊢
  cases hwritten with
  | plain => rw [List.mem_singleton, eq_comm]
  | @named letter hnamed _ =>
    rw [List.mem_pair, or_iff_right hbackslash]
    constructor
    · rintro rfl
      exact Option.some.inj (hnamed.symm.trans ((named?_eq_delimiter_iff hd).2 rfl))
    · rintro rfl
      exact ((named?_eq_delimiter_iff hd).1 hnamed).symm
  | coded hdelimiter =>
    refine iff_of_false (fun hmem => ?_) hdelimiter
    obtain ⟨letter, digits, hcode, hletter, hdigits⟩ :=
      (writesCodePoint_byCodePoint c).exists_letter
    rw [hcode, List.mem_cons, List.mem_cons, or_iff_right hbackslash] at hmem
    obtain rfl | hmem := hmem
    · obtain rfl | rfl | rfl := hletter <;> exact absurd hd (by decide)
    · obtain ⟨-, hsingle, hdouble⟩ := ne_of_mem_lowerCase (hdigits d hmem)
      exact absurd hd (not_or.2 ⟨hsingle, hdouble⟩)

/-- The delimiter is in the written form of a value if it is in the value. -/
theorem delimiter_mem_body_iff (ascii : Bool) (hd : d = '\'' ∨ d = '"') :
    d ∈ value.flatMap (escape ascii d) ↔ d ∈ value := by
  simp only [List.mem_flatMap, delimiter_mem_escape_iff hd, exists_eq_right]

/-! ## Quoted forms -/

/-- A character of a text between delimiters is the first of them, the last, or inside. -/
theorem delimited_split_cases {q : Char} {behind : Text}
    (h : d :: (t ++ [d]) = front ++ q :: behind) :
    front = [] ∧ q = d ∨ front = d :: t ∧ q = d ∧ behind = [] ∨
      ∃ before after, front = d :: before ∧ t = before ++ q :: after ∧ behind = after ++ [d] := by
  cases front with
  | nil => exact .inl ⟨rfl, (List.cons.inj h).1.symm⟩
  | cons e before =>
    obtain ⟨rfl, htail⟩ := List.cons.inj h
    obtain rfl | ⟨after, e, rfl⟩ := List.eq_nil_or_concat' behind
    · obtain ⟨rfl, hlast⟩ := List.append_inj' htail rfl
      exact .inr (.inl ⟨rfl, (List.cons.inj hlast).1.symm, rfl⟩)
    · have hends : t ++ [d] = (before ++ q :: after) ++ [e] := by
        rw [List.append_assoc, List.cons_append]
        exact htail
      obtain ⟨rfl, hlast⟩ := List.append_inj' hends rfl
      exact .inr (.inr ⟨before, after, rfl, rfl, by rw [hlast]⟩)

/-- A quote of a quoted form is escaped if and only if it is a delimiter between the two at the
ends. -/
theorem odd_backslashes_iff {q : Char} {behind : Text}
    (h : encode ascii value = front ++ q :: behind) (hq : q = '\'' ∨ q = '"') :
    Odd (backslashes front) ↔ q = delimiter value ∧ front ≠ [] ∧ behind ≠ [] := by
  have hd := delimiter_eq value
  have hbackslash : delimiter value ≠ '\\' := by obtain hd | hd := hd <;> rw [hd] <;> decide
  have hopening : Even (backslashes [delimiter value]) := by
    rw [← List.nil_append [delimiter value], backslashes_concat hbackslash]
    exact Even.zero
  have hbody := undisturbed_body hd hopening ascii value
  obtain ⟨rfl, -⟩ | ⟨rfl, -, rfl⟩ | ⟨before, after, rfl, hsplit, rfl⟩ :=
    delimited_split_cases h
  · exact iff_of_false (by decide) fun hinside => hinside.2.1 rfl
  · exact iff_of_false (Nat.not_odd_iff_even.2 hbody.closed) fun hinside => hinside.2.2 rfl
  · refine (hbody.quotes before q after hsplit hq).trans (and_iff_left ?_).symm
    exact ⟨List.cons_ne_nil _ _, List.append_ne_nil_of_right_ne_nil _ (List.cons_ne_nil _ _)⟩

/-- Some quote of a quoted form is escaped if and only if the value has both kinds of quotes. -/
theorem exists_odd_backslashes_iff :
    (∃ front q behind, encode ascii value = front ++ q :: behind ∧ (q = '\'' ∨ q = '"') ∧
      Odd (backslashes front)) ↔ '\'' ∈ value ∧ '"' ∈ value := by
  have hd := delimiter_eq value
  rw [← delimiter_mem_iff, ← delimiter_mem_body_iff ascii hd]
  constructor
  · rintro ⟨front, q, behind, hsplit, hq, hodd⟩
    obtain ⟨rfl, hfront, hbehind⟩ := (odd_backslashes_iff hsplit hq).1 hodd
    obtain ⟨rfl, -⟩ | ⟨-, -, rfl⟩ | ⟨before, after, -, hbody, -⟩ := delimited_split_cases hsplit
    · exact absurd rfl hfront
    · exact absurd rfl hbehind
    · rw [hbody]
      exact List.mem_append_right _ List.mem_cons_self
  · intro hmem
    obtain ⟨before, after, hbody⟩ := List.append_of_mem hmem
    have hsplit : encode ascii value = (delimiter value :: before) ++
        delimiter value :: (after ++ [delimiter value]) := by
      rw [encode, hbody]
      simp
    refine ⟨_, _, _, hsplit, hd, (odd_backslashes_iff hsplit hd).2 ⟨rfl, List.cons_ne_nil _ _, ?_⟩⟩
    exact List.append_ne_nil_of_right_ne_nil _ (List.cons_ne_nil _ _)

/-- A character of a quoted form is printable, or it is one that has no need to be hidden. -/
theorem isPrintable_or_of_mem_encode (h : c ∈ encode ascii value) :
    IsPrintable c ∨ ¬ isControl c ∧ (ascii → ¬ isBeyondAscii c) := by
  rw [encode, List.cons_append, List.mem_cons, List.mem_append, List.mem_singleton] at h
  obtain rfl | h | rfl := h
  · exact .inl (isPrintable_delimiter value)
  · obtain ⟨e, -, hc⟩ := List.mem_flatMap.1 h
    refine (isPrintable_or_of_mem_escape (delimiter_eq value) hc).imp_right fun hplain => ?_
    rw [hplain.1]
    exact hplain.2
  · exact .inl (isPrintable_delimiter value)

/-- In its ASCII form a value is quoted by printable characters of ASCII only, and in the other
one by no control characters.  Both forms have the same quote at both ends, which is the
double one if and only if the value has single quotes and no double quotes.  Between the ends
this quote is always escaped, an odd number of backslashes being in front of it, and the one
at the end is not; and a quote of either kind is escaped somewhere if and only if the value has
both kinds. -/
theorem encode_contents (value : Text) :
    (∀ c ∈ encode true value, 0x20 ≤ c.toNat ∧ c.toNat ≤ 0x7e) ∧
    (∀ c ∈ encode false value, 0x20 ≤ c.toNat ∧ ¬ (0x7f ≤ c.toNat ∧ c.toNat ≤ 0x9f)) ∧
    ∃ d, (d = '\'' ∨ d = '"') ∧ (d = '"' ↔ '\'' ∈ value ∧ '"' ∉ value) ∧
      ∀ ascii, (∃ inside, encode ascii value = d :: (inside ++ [d])) ∧
        (∀ front behind, encode ascii value = front ++ d :: behind → front ≠ [] → behind ≠ [] →
          Odd (backslashes front)) ∧
        (∀ front, encode ascii value = front ++ [d] → ¬ Odd (backslashes front)) ∧
        ((∃ front q behind, encode ascii value = front ++ q :: behind ∧ (q = '\'' ∨ q = '"') ∧
          Odd (backslashes front)) ↔ '\'' ∈ value ∧ '"' ∈ value) := by
  have hd := delimiter_eq value
  refine ⟨fun c hc => ?_, fun c hc => ?_, delimiter value, hd, ?_, fun ascii => ⟨⟨_, rfl⟩,
    fun front behind hsplit hfront hbehind => ?_, fun front hsplit => ?_,
    exists_odd_backslashes_iff⟩⟩
  · obtain hprintable | ⟨hcontrol, hascii⟩ := isPrintable_or_of_mem_encode hc
    · exact hprintable
    · have hbeyond := hascii rfl
      simp only [isControl, isBeyondAscii, Bool.or_eq_true, Bool.and_eq_true,
        decide_eq_true_eq] at hcontrol hbeyond
      omega
  · obtain hprintable | ⟨hcontrol, -⟩ := isPrintable_or_of_mem_encode hc
    · unfold IsPrintable at hprintable
      omega
    · simp only [isControl, Bool.or_eq_true, Bool.and_eq_true, decide_eq_true_eq] at hcontrol
      omega
  · unfold delimiter
    split
    next hquotes => exact iff_of_true rfl hquotes
    next hquotes => exact iff_of_false (by decide) hquotes
  · exact (odd_backslashes_iff hsplit hd).2 ⟨rfl, hfront, hbehind⟩
  · exact fun hodd => ((odd_backslashes_iff hsplit hd).1 hodd).2.2 rfl

/-- A backslash of the value in front of its single quote makes three of them, and one at its
end makes two in front of the delimiter. -/
theorem encode_contents_backslashes :
    encode true "\\'\"é\\".toList = "'\\\\\\'\"\\xe9\\\\'".toList ∧
    'x' ∈ encode true "\\'\"é\\".toList ∧ 0x20 ≤ 'x'.toNat ∧ 'x'.toNat ≤ 0x7e ∧
    'é' ∈ encode false "\\'\"é\\".toList ∧ ¬ (0x7f ≤ 'é'.toNat ∧ 'é'.toNat ≤ 0x9f) ∧
    Odd (backslashes "'\\\\\\".toList) ∧
    ¬ Odd (backslashes "'\\\\\\'\"\\xe9\\\\".toList) ∧
    ∃ front q behind, encode true "\\'\"é\\".toList = front ++ q :: behind ∧
      (q = '\'' ∨ q = '"') ∧ Odd (backslashes front) := by
  obtain ⟨hprintable, hcontrol, d, hd, hdouble, hforms⟩ := encode_contents "\\'\"é\\".toList
  have hsingle : d = '\'' := hd.resolve_right fun h => absurd (hdouble.1 h) (by decide)
  subst hsingle
  obtain ⟨-, hinside, hend, hquotes⟩ := hforms true
  have hform : encode true "\\'\"é\\".toList = "'\\\\\\'\"\\xe9\\\\'".toList := by decide
  have hx : 'x' ∈ encode true "\\'\"é\\".toList := by decide
  have hé : 'é' ∈ encode false "\\'\"é\\".toList := by decide
  exact ⟨hform, hx, (hprintable _ hx).1, (hprintable _ hx).2, hé, (hcontrol _ hé).2,
    hinside _ "\"\\xe9\\\\'".toList (by decide) (by decide) (by decide),
    hend _ (by decide), hquotes.2 ⟨by decide, by decide⟩⟩

end SitePress.Quoted
