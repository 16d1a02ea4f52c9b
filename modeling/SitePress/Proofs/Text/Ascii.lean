import SitePress.Proofs.Text.Quoted

/-!
# Quoting in ASCII

A value can be quoted in ASCII at once, or it can be quoted first and the characters beyond ASCII
replaced in what comes out; the two are the same.  The first pass does not leave all of these
characters to the second: a control character beyond ASCII is escaped by it already.  But its
escape is in ASCII, as all escapes and delimiters are, so that nothing is replaced twice.
-/

namespace SitePress

/-! ## Lower-case digits -/

namespace Hexadecimal

/-- The digits that numbers are written with. -/
def lowerCase : Text := "0123456789abcdef".toList

theorem digitChar_mem_lowerCase : ∀ d < 16, Nat.digitChar d ∈ lowerCase := by
  decide

theorem mem_lowerCase_of_mem_padded {digits n : Nat} {d : Char} (h : d ∈ padded digits n) :
    d ∈ lowerCase := by
  induction digits generalizing n with
  | zero => cases h
  | succ digits ih =>
    rw [padded, List.mem_append, List.mem_singleton] at h
    obtain h | rfl := h
    · exact ih h
    · exact digitChar_mem_lowerCase _ (Nat.mod_lt _ (by decide))

theorem toNat_of_mem_lowerCase {d : Char} (h : d ∈ lowerCase) :
    0x30 ≤ d.toNat ∧ d.toNat ≤ 0x66 := by
  have hall : (lowerCase.all fun d => decide (0x30 ≤ d.toNat ∧ d.toNat ≤ 0x66)) = true := by decide
  exact of_decide_eq_true (List.all_eq_true.1 hall d h)

end Hexadecimal

namespace Quoted

variable {ascii : Bool} {c d : Char} {t value : Text}

/-! ## Characters by their code points -/

/-- The letter in front of a code point, and the number of its digits. -/
def codeForm (c : Char) : Char × Nat :=
  if c.toNat < 0x100 then ('x', 2) else if c.toNat < 0x10000 then ('u', 4) else ('U', 8)

/-- The code is a backslash, a letter, and as many digits as this letter announces, which write the
code point of the character. -/
def WritesCodePoint (code : Text) (c : Char) : Prop :=
  ∃ letter digits, code = '\\' :: letter :: digits ∧
    (∀ digit ∈ digits, digit ∈ Hexadecimal.lowerCase) ∧
    Hexadecimal.read? digits.length 0 digits = some (c.toNat, []) ∧
    (letter, digits.length) = codeForm c

theorem writesCodePoint_padded {letter : Char} {count : Nat} (hc : c.toNat < 16 ^ count)
    (hform : (letter, count) = codeForm c) :
    WritesCodePoint ('\\' :: letter :: Hexadecimal.padded count c.toNat) c := by
  refine ⟨letter, _, rfl, fun digit => Hexadecimal.mem_lowerCase_of_mem_padded, ?_, ?_⟩
  · have hread := Hexadecimal.read?_padded hc []
    rw [List.append_nil] at hread
    rw [Hexadecimal.length_padded, hread]
  · rw [Hexadecimal.length_padded, hform]

theorem writesCodePoint_byCodePoint (c : Char) : WritesCodePoint (byCodePoint c) c := by
  unfold byCodePoint
  split
  next hc => exact writesCodePoint_padded hc (by rw [codeForm, if_pos hc])
  next hnarrow =>
    split
    next hc => exact writesCodePoint_padded hc (by rw [codeForm, if_neg hnarrow, if_pos hc])
    next hwide =>
      exact writesCodePoint_padded c.val.toNat_lt (by rw [codeForm, if_neg hnarrow, if_neg hwide])

/-- A code is a backslash, one of three letters, and digits. -/
theorem WritesCodePoint.exists_letter {code : Text} (h : WritesCodePoint code c) :
    ∃ letter digits, code = '\\' :: letter :: digits ∧
      (letter = 'x' ∨ letter = 'u' ∨ letter = 'U') ∧
      ∀ digit ∈ digits, digit ∈ Hexadecimal.lowerCase := by
  obtain ⟨letter, digits, rfl, hdigits, -, hform⟩ := h
  refine ⟨letter, digits, rfl, ?_, hdigits⟩
  unfold codeForm at hform
  split at hform
  · exact .inl (congrArg Prod.fst hform)
  split at hform
  · exact .inr (.inl (congrArg Prod.fst hform))
  · exact .inr (.inr (congrArg Prod.fst hform))

/-! ## Escapes in ASCII -/

/-- A character of ASCII that has a glyph, or is a space. -/
def IsPrintable (c : Char) : Prop :=
  0x20 ≤ c.toNat ∧ c.toNat ≤ 0x7e

theorem IsPrintable.lt (h : IsPrintable c) : c.toNat < 0x80 :=
  Nat.lt_of_le_of_lt h.2 (by decide)

theorem WritesCodePoint.isPrintable {code : Text} (h : WritesCodePoint code c) (hd : d ∈ code) :
    IsPrintable d := by
  obtain ⟨letter, digits, rfl, hletter, hdigits⟩ := h.exists_letter
  simp only [List.mem_cons] at hd
  unfold IsPrintable
  obtain rfl | rfl | hd := hd
  · decide
  · obtain rfl | rfl | rfl := hletter <;> decide
  · have := Hexadecimal.toNat_of_mem_lowerCase (hdigits d hd)
    omega

theorem isPrintable_of_named? {letter : Char} (h : named? letter = some c) :
    IsPrintable letter := by
  have hletter : letter = '\\' ∨ letter = '\'' ∨ letter = '"' ∨ letter = 'n' ∨ letter = 'r' ∨
      letter = 't' := by
    unfold named? at h
    grind
  unfold IsPrintable
  obtain rfl | rfl | rfl | rfl | rfl | rfl := hletter <;> decide

/-- What is written for a character is printable, or it is the character itself, which then has
no need to be hidden. -/
theorem isPrintable_or_of_mem_escape {e : Char} (hd : d = '\'' ∨ d = '"')
    (he : e ∈ escape ascii d c) :
    IsPrintable e ∨ e = c ∧ ¬ isControl c ∧ (ascii → ¬ isBeyondAscii c) := by
  have hwritten := written_escape ascii hd c
  generalize escape ascii d c = t at hwritten he
  cases hwritten with
  | plain _ _ hcontrol hascii => exact .inr ⟨List.mem_singleton.1 he, hcontrol, hascii⟩
  | named hnamed =>
    obtain rfl | rfl := List.mem_pair.1 he
    · exact .inl (by unfold IsPrintable; decide)
    · exact .inl (isPrintable_of_named? hnamed)
  | coded => exact .inl ((writesCodePoint_byCodePoint c).isPrintable he)

theorem isPrintable_delimiter (value : Text) : IsPrintable (delimiter value) := by
  unfold IsPrintable
  obtain hd | hd := delimiter_eq value
  · rw [hd]
    decide
  · rw [hd]
    decide

/-! ## The second pass -/

/-- A character of a quoted form, written in ASCII: by its code point if it is beyond. -/
def inAscii (c : Char) : Text :=
  if isBeyondAscii c then byCodePoint c else [c]

theorem isBeyondAscii_eq_false (hc : c.toNat < 0x80) : isBeyondAscii c = false := by
  simpa [isBeyondAscii] using hc

theorem inAscii_of_lt (hc : c.toNat < 0x80) : inAscii c = [c] := by
  simp [inAscii, isBeyondAscii_eq_false hc]

theorem flatMap_inAscii_of_lt (h : ∀ c ∈ t, c.toNat < 0x80) : t.flatMap inAscii = t := by
  induction t with
  | nil => rfl
  | cons c t ih =>
    obtain ⟨hc, ht⟩ := List.forall_mem_cons.1 h
    rw [List.flatMap_cons, inAscii_of_lt hc, ih ht, List.singleton_append]

/-! ## One character in two passes -/

/-- In ASCII the two ways to quote are one. -/
theorem escape_eq_of_lt (hc : c.toNat < 0x80) : escape true d c = escape false d c := by
  simp only [escape, isBeyondAscii_eq_false hc, Bool.and_false]

/-- Beyond ASCII there is no character with a name, and no delimiter. -/
theorem escape_of_isBeyondAscii (hd : d = '\'' ∨ d = '"') (hc : isBeyondAscii c) :
    escape ascii d c = if isControl c || ascii then byCodePoint c else [c] := by
  have hne (e : Char) (he : isBeyondAscii e = false) : c ≠ e := by
    rintro rfl
    rw [hc] at he
    cases he
  have hdelimiter : c ≠ d := by
    obtain rfl | rfl := hd
    · exact hne _ rfl
    · exact hne _ rfl
  rw [escape, if_neg (hne _ rfl), if_neg (hne _ rfl), if_neg (hne _ rfl), if_neg (hne _ rfl),
    if_neg hdelimiter, hc, Bool.and_true]

theorem lt_of_mem_escape (hd : d = '\'' ∨ d = '"') (hc : c.toNat < 0x80) {e : Char}
    (he : e ∈ escape ascii d c) : e.toNat < 0x80 := by
  obtain hprintable | ⟨rfl, -⟩ := isPrintable_or_of_mem_escape hd he
  · exact hprintable.lt
  · exact hc

/-- Escaping a character in ASCII is escaping it and then replacing what is beyond ASCII. -/
theorem escape_true_eq (hd : d = '\'' ∨ d = '"') (c : Char) :
    escape true d c = (escape false d c).flatMap inAscii := by
  by_cases hc : isBeyondAscii c
  · rw [escape_of_isBeyondAscii hd hc, escape_of_isBeyondAscii hd hc, Bool.or_true, if_pos rfl,
      Bool.or_false]
    split
    · -- a control character: its code is not replaced a second time
      exact (flatMap_inAscii_of_lt fun e he =>
        ((writesCodePoint_byCodePoint c).isPrintable he).lt).symm
    · simp [inAscii, hc]
  · have hlt : c.toNat < 0x80 := by simpa [isBeyondAscii] using hc
    rw [escape_eq_of_lt hlt, flatMap_inAscii_of_lt fun e he => lt_of_mem_escape hd hlt he]

/-! ## Values in two passes -/

/-- A delimiter stays what it is in the second pass. -/
theorem inAscii_delimiter (value : Text) : inAscii (delimiter value) = [delimiter value] :=
  inAscii_of_lt (isPrintable_delimiter value).lt

theorem encode_true_eq (value : Text) :
    encode true value = (encode false value).flatMap inAscii := by
  have hbody : value.flatMap (escape true (delimiter value)) =
      (value.flatMap (escape false (delimiter value))).flatMap inAscii := by
    rw [List.flatMap_assoc]
    exact List.flatMap_congr fun c _ => escape_true_eq (delimiter_eq value) c
  simp only [encode, hbody, List.flatMap_cons, List.flatMap_append, List.flatMap_nil,
    inAscii_delimiter, List.append_nil, List.nil_append, List.cons_append]

theorem encode_eq_of_lt (h : ∀ c ∈ value, c.toNat < 0x80) :
    encode true value = encode false value := by
  have hbody : value.flatMap (escape true (delimiter value)) =
      value.flatMap (escape false (delimiter value)) :=
    List.flatMap_congr fun c hc => escape_eq_of_lt (h c hc)
  simp only [encode, hbody]

/-- Quoting a value in ASCII is quoting it and then replacing each character beyond ASCII in the
quoted form, and no other, by its code point, in two, four or eight lower-case digits.  Both forms
have the same delimiter on both sides, and for a value in ASCII they are the same. -/
theorem encode_in_two_passes :
    (∀ value, encode true value = (encode false value).flatMap inAscii) ∧
    (∀ c : Char, if c.toNat < 0x80 then inAscii c = [c] else WritesCodePoint (inAscii c) c) ∧
    (∀ value, ∃ d, ∀ ascii,
      (encode ascii value).head? = some d ∧ (encode ascii value).getLast? = some d) ∧
    ∀ value : Text, (∀ c ∈ value, c.toNat < 0x80) → encode true value = encode false value := by
  refine ⟨encode_true_eq, fun c => ?_, fun value => ⟨delimiter value, fun ascii => ⟨rfl, ?_⟩⟩,
    fun value => encode_eq_of_lt⟩
  · split
    next hc => exact inAscii_of_lt hc
    next hc =>
      have hbeyond : isBeyondAscii c := by simpa [isBeyondAscii] using hc
      rw [inAscii, if_pos hbeyond]
      exact writesCodePoint_byCodePoint c
  · exact List.getLast?_concat

/-- The second pass replaces the three characters that the first one has left, and nothing in the
codes of two control characters; a value in ASCII has one form, also if it holds both quotes. -/
theorem encode_in_two_passes_mixed :
    encode false "it's\x7f\u0085é☕😀\\".toList = "\"it's\\x7f\\x85é☕😀\\\\\"".toList ∧
    encode true "it's\x7f\u0085é☕😀\\".toList =
      "\"it's\\x7f\\x85\\xe9\\u2615\\U0001f600\\\\\"".toList ∧
    encode true "say \"it's\"\n".toList = encode false "say \"it's\"\n".toList := by
  obtain ⟨hpasses, -, -, hsame⟩ := encode_in_two_passes
  have hascii : ("say \"it's\"\n".toList.all fun c => decide (c.toNat < 0x80)) = true := by decide
  refine ⟨by decide, ?_, hsame _ fun c hc => of_decide_eq_true (List.all_eq_true.1 hascii c hc)⟩
  rw [hpasses]
  decide

end Quoted

end SitePress
