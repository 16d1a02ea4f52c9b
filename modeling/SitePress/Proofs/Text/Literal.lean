import SitePress.Proofs.Text.Quoted
import SitePress.Text.Literal

/-!
# Literals tell characters apart

A character is shown as itself, by a name, or by its code point.  These forms have one
character, two, and five or more, so none is taken for one of another kind; and a form gives
its character back, since a code point has only one numeral without zeros in front.
-/

namespace SitePress

/-! ## Hexadecimal numerals -/

namespace Hexadecimal

theorem shortest_eq (n : Nat) :
    shortest n = (if n < 16 then [] else shortest (n / 16)) ++ [Nat.digitChar (n % 16)] := by
  unfold shortest
  rw [Nat.toDigits_eq_if (by decide)]
  split
  next hn => rw [Nat.mod_eq_of_lt hn, List.nil_append]
  next => rfl

theorem shortest_ne_nil (n : Nat) : shortest n ≠ [] :=
  Nat.toDigits_ne_nil

theorem digitChar_inj {d e : Nat} (hd : d < 16) (he : e < 16)
    (h : Nat.digitChar d = Nat.digitChar e) : d = e := by
  have hdigit := digit?_digitChar d hd
  rw [h, digit?_digitChar e he] at hdigit
  exact (Option.some.inj hdigit).symm

/-- A number has one numeral without zeros in front. -/
theorem shortest_injective {n m : Nat} (h : shortest n = shortest m) : n = m := by
  induction n using Nat.strongRecOn generalizing m with
  | _ n ih =>
    rw [shortest_eq n, shortest_eq m] at h
    obtain ⟨hfront, hlast⟩ := List.append_inj' h rfl
    have hmod : n % 16 = m % 16 :=
      digitChar_inj (Nat.mod_lt _ (by decide)) (Nat.mod_lt _ (by decide)) (List.cons.inj hlast).1
    by_cases hn : n < 16 <;> by_cases hm : m < 16
    · omega
    · rw [if_pos hn, if_neg hm] at hfront
      exact absurd hfront.symm (shortest_ne_nil _)
    · rw [if_neg hn, if_pos hm] at hfront
      exact absurd hfront (shortest_ne_nil _)
    · rw [if_neg hn, if_neg hm] at hfront
      have hdiv := ih (n / 16) (by omega) hfront
      omega

end Hexadecimal

/-! ## Literals -/

namespace Literal

variable {c e d : Char} {s t : Text}

/-- The character that a letter behind a backslash names. -/
def meaning (letter : Char) : Char :=
  if letter = '0' then '\x00'
  else if letter = 't' then '\t'
  else if letter = 'r' then '\r'
  else if letter = 'n' then '\n'
  else letter

/-- The forms of a character between the delimiters of a literal. -/
inductive Written (c : Char) : Text → Prop
  | plain : Written c [c]
  | named {letter : Char} (hletter : meaning letter = c) : Written c ['\\', letter]
  | coded : Written c (byCodePoint c)

theorem written_escape (hd : d = '\'' ∨ d = '"') (c : Char) : Written c (escape d c) := by
  unfold escape
  split
  next hc => exact .named (by rw [hc]; rfl)
  split
  next hc => exact .named (by rw [hc]; rfl)
  split
  next hc => exact .named (by rw [hc]; rfl)
  split
  next hc => exact .named (by rw [hc]; rfl)
  split
  next hc =>
    refine .named ?_
    obtain rfl | rfl := hc
    · rfl
    · obtain rfl | rfl := hd <;> rfl
  split
  · exact .coded
  · exact .plain

/-- A form gives its character back. -/
theorem Written.unique (hc : Written c t) (he : Written e t) : c = e := by
  generalize hs : t = s at he
  cases hc with
  | plain =>
    cases he with
    | plain => exact (List.cons.inj hs).1
    | named => simp at hs
    | coded => simp [byCodePoint] at hs
  | named hletter =>
    cases he with
    | plain => simp at hs
    | named hother =>
      obtain ⟨rfl, -⟩ := List.cons.inj (List.cons.inj hs).2
      exact hletter.symm.trans hother
    | coded => simp [byCodePoint] at hs
  | coded =>
    cases he with
    | plain => simp [byCodePoint] at hs
    | named => simp [byCodePoint] at hs
    | coded =>
      simp only [byCodePoint, List.append_cancel_left_eq, List.append_cancel_right_eq] at hs
      exact Char.toNat_inj.1 (Hexadecimal.shortest_injective hs)

/-- Different characters have different literals. -/
theorem ofChar_injective (h : ofChar c = ofChar e) : c = e := by
  have hescape : escape '\'' c = escape '\'' e := List.append_cancel_right (List.cons.inj h).2
  have hc := written_escape (.inl rfl) c
  rw [hescape] at hc
  exact hc.unique (written_escape (.inl rfl) e)

end Literal

end SitePress
