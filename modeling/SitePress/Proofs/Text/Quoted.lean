import Mathlib.Algebra.Order.BigOperators.Group.List
import Mathlib.Algebra.Order.Group.Nat
import SitePress.Text.Quoted

/-!
# Quoted values read back

A quoted form is read back without knowing where it ends: its escapes have three widths
and no end of their own, and which of the two quotes it ends with depends on the whole
value.  So a form is never the beginning of another one, and a text that goes on behind it
is not drawn into it.  A longer value has a form that is no shorter, although a quote that
comes in late can change the delimiter.

## Main definitions

* `Quoted.Written` — the three ways to write a character.
* `Quoted.StandsFor` — that what follows a backslash means a certain character.
-/

namespace SitePress

/-! ## Hexadecimal digits -/

namespace Hexadecimal

theorem digit?_digitChar : ∀ d < 16, digit? (Nat.digitChar d) = some d := by
  decide

/-- The digits of a number, read behind those of `n`, leave the reader with both. -/
theorem read?_padded_append (digits more n m : Nat) (rest : Text) :
    read? (digits + more) n (padded digits m ++ rest) =
      read? more (16 ^ digits * n + m % 16 ^ digits) rest := by
  induction digits generalizing more m rest with
  | zero => simp [padded, Nat.mod_one]
  | succ digits ih =>
    have hdigit := digit?_digitChar (m % 16) (Nat.mod_lt _ (by decide))
    have hnumber : 16 * (16 ^ digits * n + m / 16 % 16 ^ digits) + m % 16 =
        16 ^ (digits + 1) * n + m % 16 ^ (digits + 1) := by
      rw [Nat.pow_succ', Nat.mod_mul, Nat.mul_add, Nat.mul_assoc]
      omega
    rw [padded, List.append_assoc, Nat.add_assoc, Nat.add_comm 1, ih, List.singleton_append]
    simp [read?, hdigit, hnumber]

theorem read?_padded {digits n : Nat} (hn : n < 16 ^ digits) (rest : Text) :
    read? digits 0 (padded digits n ++ rest) = some (n, rest) := by
  have hread := read?_padded_append digits 0 0 n rest
  rw [Nat.mul_zero, Nat.zero_add, Nat.mod_eq_of_lt hn] at hread
  exact hread

end Hexadecimal

namespace Quoted

variable {ascii asciiOther : Bool} {c d letter : Char} {code value other rest restOther : Text}

/-! ## Escapes -/

/-- The code, put behind a backslash, stands for the character whatever follows the code. -/
def StandsFor (code : Text) (c : Char) : Prop :=
  ∀ rest, unescape? (code ++ rest) = some (c, rest)

theorem standsFor_of_named? (h : named? letter = some c) : StandsFor [letter] c := by
  intro rest
  simp [unescape?, h]

theorem readCodePoint?_padded {digits : Nat} (hc : c.toNat < 16 ^ digits) (rest : Text) :
    readCodePoint? digits (Hexadecimal.padded digits c.toNat ++ rest) = some (c, rest) := by
  have hvalid : c.toNat.isValidChar := c.valid
  simp [readCodePoint?, Hexadecimal.read?_padded hc, ofCodePoint?, hvalid]

/-- In each of its three widths, a code point is read back to its last digit and no further. -/
theorem exists_byCodePoint_eq (c : Char) :
    ∃ code, byCodePoint c = '\\' :: code ∧ StandsFor code c := by
  unfold byCodePoint
  split
  next hc => exact ⟨_, rfl, readCodePoint?_padded hc⟩
  split
  next hc => exact ⟨_, rfl, readCodePoint?_padded hc⟩
  · exact ⟨_, rfl, readCodePoint?_padded c.val.toNat_lt⟩

theorem delimiter_eq (value : Text) : delimiter value = '\'' ∨ delimiter value = '"' := by
  unfold delimiter
  split
  · exact .inr rfl
  · exact .inl rfl

/-- The ways in which a character of a value is written between two delimiters `d`. -/
inductive Written (ascii : Bool) (d c : Char) : Text → Prop
  /-- As it is, if it can be mistaken neither for an escape nor for the delimiter and has no
  need to be hidden. -/
  | plain (hbackslash : c ≠ '\\') (hdelimiter : c ≠ d) (hcontrol : ¬ isControl c)
    (hascii : ascii → ¬ isBeyondAscii c) : Written ascii d c [c]
  /-- By its name; of the two quotes only the delimiter is. -/
  | named {letter : Char} (hnamed : named? letter = some c)
    (hquote : letter = '\'' ∨ letter = '"' → letter = d) : Written ascii d c ['\\', letter]
  /-- By its code point. -/
  | coded (hdelimiter : c ≠ d) : Written ascii d c (byCodePoint c)

theorem written_escape (ascii : Bool) (hd : d = '\'' ∨ d = '"') (c : Char) :
    Written ascii d c (escape ascii d c) := by
  unfold escape
  split
  next hc => exact .named (by rw [hc]; rfl) fun h => absurd h (by decide)
  next hbackslash =>
    split
    next hc => exact .named (by rw [hc]; rfl) fun h => absurd h (by decide)
    split
    next hc => exact .named (by rw [hc]; rfl) fun h => absurd h (by decide)
    split
    next hc => exact .named (by rw [hc]; rfl) fun h => absurd h (by decide)
    split
    next hc =>
      refine .named ?_ fun _ => hc
      rcases hd with rfl | rfl <;> subst hc <;> rfl
    next hdelimiter =>
      split
      · exact .coded hdelimiter
      next hplain =>
        simp only [Bool.or_eq_true, Bool.and_eq_true, not_or, not_and] at hplain
        exact .plain hbackslash hdelimiter hplain.1 hplain.2

/-- A character stands as it is, being neither a backslash nor the delimiter, or it becomes a
backslash and a code that stands for it. -/
theorem escape_cases (ascii : Bool) (hd : d = '\'' ∨ d = '"') (c : Char) :
    (escape ascii d c = [c] ∧ c ≠ '\\' ∧ c ≠ d) ∨
      ∃ code, escape ascii d c = '\\' :: code ∧ StandsFor code c := by
  have hwritten := written_escape ascii hd c
  generalize escape ascii d c = t at hwritten ⊢
  cases hwritten with
  | plain hbackslash hdelimiter => exact .inl ⟨rfl, hbackslash, hdelimiter⟩
  | named hnamed => exact .inr ⟨_, rfl, standsFor_of_named? hnamed⟩
  | coded => exact .inr (exists_byCodePoint_eq c)

/-! ## Reading back -/

theorem decodeBody?_plain (hc : c ≠ '\\') (hd : c ≠ d) (rest : Text) :
    decodeBody? d (c :: rest) =
      (decodeBody? d rest).map fun (value, behind) => (c :: value, behind) := by
  rw [decodeBody?, if_neg hd, if_neg hc]

theorem decodeBody?_code (hd : d ≠ '\\') (hcode : StandsFor code c) (rest : Text) :
    decodeBody? d ('\\' :: (code ++ rest)) =
      (decodeBody? d rest).map fun (value, behind) => (c :: value, behind) := by
  rw [decodeBody?, if_neg hd.symm, if_pos rfl]
  split
  next hnone => cases hnone.symm.trans (hcode rest)
  next meant behind hsome =>
    obtain ⟨rfl, rfl⟩ := Prod.mk.inj (Option.some.inj (hsome.symm.trans (hcode rest)))
    rfl

/-- One character is read back, and what follows it is read as if it stood in front. -/
theorem decodeBody?_escape_append (ascii : Bool) (hd : d = '\'' ∨ d = '"') (c : Char)
    (rest : Text) :
    decodeBody? d (escape ascii d c ++ rest) =
      (decodeBody? d rest).map fun (value, behind) => (c :: value, behind) := by
  rcases escape_cases ascii hd c with ⟨hescape, hbackslash, hdelimiter⟩ | ⟨code, hescape, hcode⟩
  · rw [hescape]
    exact decodeBody?_plain hbackslash hdelimiter rest
  · rw [hescape]
    refine decodeBody?_code ?_ hcode rest
    rcases hd with rfl | rfl <;> decide

/-- The characters of a value are read back up to the delimiter. -/
theorem decodeBody?_body_append (ascii : Bool) (hd : d = '\'' ∨ d = '"') (value rest : Text) :
    decodeBody? d (value.flatMap (escape ascii d) ++ d :: rest) = some (value, rest) := by
  induction value with
  | nil => simp [decodeBody?]
  | cons c value ih =>
    rw [List.flatMap_cons, List.append_assoc, decodeBody?_escape_append ascii hd, ih]
    rfl

/-- A quoted form is read back, whatever follows it. -/
theorem decode?_encode_append (ascii : Bool) (value rest : Text) :
    decode? (encode ascii value ++ rest) = some (value, rest) := by
  have hd := delimiter_eq value
  have hbody := decodeBody?_body_append ascii hd value rest
  simpa [encode, decode?, hd] using hbody

/-- Two quoted forms at the head of one text are forms of one value, and equal. -/
theorem encode_append_inj
    (h : encode ascii value ++ rest = encode asciiOther other ++ restOther) :
    value = other ∧ rest = restOther := by
  have hread := decode?_encode_append ascii value rest
  rw [h, decode?_encode_append] at hread
  obtain ⟨rfl, rfl⟩ := Prod.mk.inj (Option.some.inj hread)
  exact ⟨rfl, rfl⟩

/-- A quoted form is read back, in ASCII alone or not, and what follows it is left.  So a form
is the beginning of another one only if it is all of it, and then both are forms of one value;
and different values never have the same form. -/
theorem encode_self_delimiting :
    (∀ (ascii : Bool) (value rest : Text),
      decode? (encode ascii value ++ rest) = some (value, rest)) ∧
    (∀ (ascii asciiOther : Bool) (value other : Text),
      encode ascii value <+: encode asciiOther other →
        encode ascii value = encode asciiOther other ∧ value = other) ∧
    ∀ (ascii asciiOther : Bool) (value other : Text),
      value ≠ other → encode ascii value ≠ encode asciiOther other := by
  refine ⟨decode?_encode_append, ?_, ?_⟩
  · rintro ascii asciiOther value other ⟨rest, hrest⟩
    have hform : encode ascii value ++ rest = encode asciiOther other ++ [] := by
      rw [hrest, List.append_nil]
    obtain ⟨hvalue, rfl⟩ := encode_append_inj hform
    rw [List.append_nil] at hrest
    exact ⟨hrest, hvalue⟩
  · intro ascii asciiOther value other hne hform
    exact hne (encode_append_inj (congrArg (· ++ []) hform)).1

/-- A control character in front of a digit, and both quotes, are read back; a value in ASCII
has one form; and a character beyond it is not taken for the text of its own code. -/
theorem encode_self_delimiting_mixed :
    decode? (encode true "\x01f'\"é".toList ++ "0'".toList) =
      some ("\x01f'\"é".toList, "0'".toList) ∧
    encode false "it's".toList <+: encode true "it's".toList ∧
    encode false "it's".toList = encode true "it's".toList ∧
    "é".toList ≠ "\\xe9".toList ∧
    encode true "é".toList ≠ encode false "\\xe9".toList := by
  obtain ⟨hread, hpart, hdiffer⟩ := encode_self_delimiting
  have hprefix : encode false "it's".toList <+: encode true "it's".toList := by decide
  have hne : "é".toList ≠ "\\xe9".toList := by decide
  exact ⟨hread _ _ _, hprefix, (hpart _ _ _ _ hprefix).1, hne, hdiffer _ _ _ _ hne⟩

/-! ## Lengths -/

/-- A character other than the delimiter takes no more room than it takes between two others. -/
theorem length_escape_le {e : Char} (ascii : Bool) (hc : c ≠ d) (he : e = '\'' ∨ e = '"') :
    (escape ascii d c).length ≤ (escape ascii e c).length := by
  by_cases hce : c = e
  · subst hce
    rcases he with rfl | rfl <;> simp [escape, hc, isControl, isBeyondAscii]
  · simp [escape, hc, hce]

/-- A value that loses its delimiter as it is continued has no such quote in it. -/
theorem delimiter_not_mem (h : delimiter value ≠ delimiter (value ++ other)) :
    delimiter value ∉ value := by
  unfold delimiter at h ⊢
  grind

theorem length_encode_le_append (ascii : Bool) (value other : Text) :
    (encode ascii value).length ≤ (encode ascii (value ++ other)).length := by
  have hescape : ∀ c ∈ value, (escape ascii (delimiter value) c).length ≤
      (escape ascii (delimiter (value ++ other)) c).length := by
    intro c hc
    by_cases hsame : delimiter value = delimiter (value ++ other)
    · exact Nat.le_of_eq (by rw [hsame])
    · refine length_escape_le ascii ?_ (delimiter_eq _)
      rintro rfl
      exact delimiter_not_mem hsame hc
  have hbody : (value.flatMap (escape ascii (delimiter value))).length ≤
      (value.flatMap (escape ascii (delimiter (value ++ other)))).length := by
    rw [List.length_flatMap, List.length_flatMap]
    exact List.sum_le_sum hescape
  simp only [encode, List.cons_append, List.length_cons, List.length_append, List.flatMap_append]
  omega

end Quoted

end SitePress
