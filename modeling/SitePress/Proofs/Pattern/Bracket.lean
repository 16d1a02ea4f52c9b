import Mathlib.Data.List.Basic
import Mathlib.Data.List.TakeWhile
import SitePress.Pattern.Bracket

/-!
# Brackets are read to their end

Every sign, escape and member takes at least the character that it starts with, so a bracket is
closed or refused within as many rounds as there are characters.  What stands in a bracket behind
backslashes, or is no sign, is taken for a member wherever it stands.
-/

namespace SitePress.Pattern

variable {mode : Mode} {t rest behind : Text} {c : Char}

/-! ## Every reading makes progress -/

namespace Mode

theorem length_skipSpace_le (inComment : Bool) (t : Text) :
    (skipSpace inComment t).length ≤ t.length := by
  fun_induction skipSpace inComment t with
  | case1 => exact Nat.le_refl _
  | case2 c rest ih => exact Nat.le_succ_of_le ih
  | case3 _ c rest _ _ ih => exact Nat.le_succ_of_le ih
  | case4 _ rest _ _ ih => exact Nat.le_succ_of_le ih
  | case5 => exact Nat.le_refl _

theorem length_skip_le (mode : Mode) (t : Text) : (mode.skip t).length ≤ t.length := by
  unfold skip
  split
  · exact length_skipSpace_le false t
  · exact Nat.le_refl _

theorem length_lt_of_skip (h : mode.skip t = c :: rest) : rest.length < t.length := by
  have := mode.length_skip_le t
  rw [h, List.length_cons] at this
  exact this

@[simp] theorem skip_start (t : Text) : Mode.start.skip t = t := rfl

end Mode

namespace Escape

theorem length_lt_of_number? {digits value n : Nat}
    (h : number? mode digits value t = some (n, rest)) : rest.length + digits ≤ t.length := by
  induction digits generalizing value t with
  | zero =>
    obtain ⟨-, rfl⟩ := Prod.mk.inj (Option.some.inj h)
    exact Nat.le_refl _
  | succ digits ih =>
    unfold number? at h
    split at h
    · contradiction
    · rename_i c behind hskip
      obtain ⟨digit, -, hnumber⟩ := Option.bind_eq_some_iff.1 h
      have := ih hnumber
      have := Mode.length_lt_of_skip hskip
      omega

theorem length_le_of_byCodePoint? {digits : Nat} {escape : Escape}
    (h : byCodePoint? mode digits t = some (escape, rest)) : rest.length ≤ t.length := by
  obtain ⟨⟨value, behind⟩, hnumber, h⟩ := Option.bind_eq_some_iff.1 h
  have := length_lt_of_number? hnumber
  dsimp only at h
  split at h
  · obtain ⟨-, rfl⟩ := Prod.mk.inj (Option.some.inj h)
    omega
  · contradiction

theorem length_lt_of_read? {escape : Escape} (h : read? mode t = some (escape, rest)) :
    rest.length < t.length := by
  cases t with
  | nil => contradiction
  | cons c t =>
    suffices rest.length ≤ t.length from Nat.lt_succ_of_le this
    unfold read? at h
    grind [→ length_le_of_byCodePoint?, Option.map_eq_some_iff]

end Escape

namespace Bracket

theorem length_lt_of_named? {negated : Bool} (h : named? t = some (negated, rest)) :
    rest.length < t.length := by
  unfold named? at h
  grind [List.length_dropWhile_le]

theorem length_le_of_member? {member : Member} (h : member? mode c t = some (member, rest)) :
    rest.length ≤ t.length := by
  unfold member? at h
  grind [→ Escape.length_lt_of_read?]

theorem length_le_of_skipMember? (h : skipMember? mode c t = some rest) :
    rest.length ≤ t.length := by
  obtain ⟨⟨first, behind⟩, hfirst, h⟩ := Option.bind_eq_some_iff.1 h
  have := length_le_of_member? hfirst
  have := mode.length_skip_le behind
  grind [→ length_le_of_member?, → Mode.length_lt_of_skip, Option.bind_eq_some_iff]

theorem length_le_of_opened? (h : opened? mode t = some rest) : rest.length ≤ t.length := by
  unfold opened? at h
  have := mode.length_skip_le t
  grind

theorem length_le_of_step? {bracket : Bracket} {outer : List Bracket} {next : Next}
    (h : step? mode bracket outer c t = some (next, rest)) : rest.length ≤ t.length := by
  unfold step? at h
  grind [→ length_lt_of_named?, → length_le_of_opened?, → length_le_of_skipMember?,
    Option.bind_eq_some_iff]

/-- More rounds than there are characters make no difference. -/
theorem readOn?_congr {bracket : Bracket} {outer : List Bracket} {rounds more : Nat}
    (hrounds : t.length < rounds) (hmore : t.length < more) :
    readOn? mode rounds bracket outer t = readOn? mode more bracket outer t := by
  induction rounds generalizing more bracket outer t with
  | zero => contradiction
  | succ rounds ih =>
    obtain ⟨more, rfl⟩ := Nat.exists_eq_succ_of_ne_zero (Nat.ne_zero_of_lt hmore)
    unfold readOn?
    split
    · rfl
    · rename_i c rest hskip
      have := Mode.length_lt_of_skip hskip
      cases hstep : step? mode bracket outer c rest with
      | none => rfl
      | some found =>
        obtain ⟨next, behind⟩ := found
        have := length_le_of_step? hstep
        cases next with
        | closed depth => rfl
        | inside bracket outer => exact ih (by omega) (by omega)

theorem length_lt_of_readOn? {bracket : Bracket} {outer : List Bracket} {rounds depth : Nat}
    (h : readOn? mode rounds bracket outer t = some (depth, rest)) : rest.length < t.length := by
  induction rounds generalizing bracket outer t with
  | zero => contradiction
  | succ rounds ih =>
    unfold readOn? at h
    split at h
    · contradiction
    · rename_i c behind hskip
      have := Mode.length_lt_of_skip hskip
      cases hstep : step? mode bracket outer c behind with
      | none => simp [hstep] at h
      | some found =>
        obtain ⟨next, left⟩ := found
        have := length_le_of_step? hstep
        simp only [hstep] at h
        cases next with
        | closed closedDepth =>
          obtain ⟨-, rfl⟩ := Prod.mk.inj (Option.some.inj h)
          omega
        | inside bracket outer =>
          have := ih h
          omega

theorem length_lt_of_read? {depth : Nat} (h : read? mode t = some (depth, rest)) :
    rest.length < t.length := by
  obtain ⟨behind, hopened, h⟩ := Option.bind_eq_some_iff.1 h
  have := length_le_of_opened? hopened
  have := length_lt_of_readOn? h
  omega

end Bracket

/-! ## Quoting -/

/-- A text with a backslash in front of all that could be a sign. -/
def quote (t : Text) : Text :=
  t.flatMap fun c => if Escape.isPlain c then ['\\', c] else [c]

theorem quote_cons_plain (h : Escape.isPlain c) (t : Text) :
    quote (c :: t) = '\\' :: c :: quote t := by
  simp [quote, h]

theorem quote_cons_self (h : ¬ Escape.isPlain c) (t : Text) : quote (c :: t) = c :: quote t := by
  simp [quote, h]

theorem length_le_quote (t : Text) : t.length ≤ (quote t).length := by
  induction t with
  | nil => exact Nat.le_refl _
  | cons c t ih =>
    by_cases hplain : Escape.isPlain c
    · rw [quote_cons_plain hplain]
      exact Nat.le_succ_of_le (Nat.succ_le_succ ih)
    · rw [quote_cons_self hplain]
      exact Nat.succ_le_succ ih

theorem ne_of_not_isPlain {sign : Char} (h : ¬ Escape.isPlain c) (hsign : Escape.isPlain sign) :
    c ≠ sign := by
  rintro rfl
  exact h hsign

/-- Quoted text starts with no sign but the backslash. -/
theorem head?_quote_ne {sign : Char} (hsign : Escape.isPlain sign) (hne : sign ≠ '\\')
    (hrest : rest.head? ≠ some sign) (t : Text) : (quote t ++ rest).head? ≠ some sign := by
  cases t with
  | nil => exact hrest
  | cons c t =>
    by_cases hplain : Escape.isPlain c
    · rw [quote_cons_plain hplain]
      simpa using hne.symm
    · rw [quote_cons_self hplain]
      simpa using ne_of_not_isPlain hplain hsign

/-- The letters that an escape may start with. -/
def Escape.letters : List Char :=
  ['x', 'u', 'U', 'd', 's', 'w', 'D', 'S', 'W', 'A', 'z', 'b', 'B', '<', '>']

theorem Escape.ne_of_isPlain (h : isPlain c) : ∀ letter ∈ letters, c ≠ letter := by
  have hletters : ∀ letter ∈ letters, isPlain letter = false :=
    List.forall_iff_forall_mem.1 (by decide)
  rintro letter hletter rfl
  rw [hletters c hletter] at h
  contradiction

theorem Escape.read?_plain (h : isPlain c) (mode : Mode) (rest : Text) :
    read? mode (c :: rest) = some (.character c false, rest) := by
  have hne := ne_of_isPlain h
  simp only [letters, List.forall_mem_cons] at hne
  simp [read?, h, hne]

/-! ## Sets of quoted characters -/

namespace Bracket

/-- A character that no dash follows is a member by itself. -/
theorem skipMember?_of_character (d : Char)
    (hmember : member? .start c t = some (.character d, rest))
    (hdash : rest.head? ≠ some '-') : skipMember? .start c t = some rest := by
  simp only [skipMember?, hmember, Option.bind_eq_bind, Option.bind_some, Mode.skip_start]
  split
  · exact absurd rfl hdash
  · rfl

theorem skipMember?_plain (hplain : Escape.isPlain c) (hdash : rest.head? ≠ some '-') :
    skipMember? .start '\\' (c :: rest) = some rest := by
  refine skipMember?_of_character c ?_ hdash
  simp only [member?, if_true, Escape.read?_plain hplain]

theorem skipMember?_self (hplain : ¬ Escape.isPlain c) (hdash : rest.head? ≠ some '-') :
    skipMember? .start c rest = some rest := by
  have hc : c ≠ '\\' := ne_of_not_isPlain hplain rfl
  exact skipMember?_of_character c (if_neg hc) hdash

/-- What is no sign in a bracket is read as a member. -/
theorem step?_member (bracket : Bracket) (hsigns : ∀ sign ∈ ['-', ']', '[', '&', '~'], c ≠ sign)
    (hmember : skipMember? .start c t = some rest) (outer : List Bracket) :
    step? .start bracket outer c t = some (.inside (bracket.add 0) outer, rest) := by
  simp only [List.forall_mem_cons] at hsigns
  simp [step?, isLeading, isOperator, hsigns, hmember]

/-- A bracket with members of single characters. -/
def addCharacters (bracket : Bracket) (n : Nat) : Bracket :=
  { bracket with members := List.replicate n 0 ++ bracket.members }

theorem contentDepth_add_addCharacters (bracket : Bracket) (n : Nat) :
    ((bracket.add 0).addCharacters n).contentDepth =
      (bracket.addCharacters (n + 1)).contentDepth := by
  have : List.replicate n 0 ++ 0 :: bracket.members =
      List.replicate (n + 1) 0 ++ bracket.members := by
    rw [List.replicate_succ', List.append_assoc, List.singleton_append]
  simp only [contentDepth, addCharacters, add, this]

theorem readOn?_step {bracket next : Bracket} {outer : List Bracket}
    (h : step? .start bracket outer c t = some (.inside next outer, rest)) (rounds : Nat) :
    readOn? .start (rounds + 1) bracket outer (c :: t) =
      readOn? .start rounds next outer rest := by
  simp only [readOn?, Mode.skip_start, h]

/-- Quoted characters up to the closing bracket are read one by one; this bracket would be a
member if it were the first. -/
theorem readOn?_quote {bracket : Bracket} {rounds : Nat} (hrounds : t.length < rounds)
    (hclosing : t ≠ [] ∨ bracket.fresh = false) :
    readOn? .start rounds bracket [] (quote t ++ ']' :: rest) =
      some ((bracket.addCharacters t.length).contentDepth + 1, rest) := by
  induction t generalizing bracket rounds with
  | nil =>
    obtain ⟨rounds, rfl⟩ := Nat.exists_eq_succ_of_ne_zero (Nat.ne_zero_of_lt hrounds)
    have hfresh : bracket.fresh = false := by simpa using hclosing
    simp [readOn?, quote, step?, isLeading, hfresh]
    rfl
  | cons c t ih =>
    obtain ⟨rounds, rfl⟩ := Nat.exists_eq_succ_of_ne_zero (Nat.ne_zero_of_lt hrounds)
    have hdash : (quote t ++ ']' :: rest).head? ≠ some '-' :=
      head?_quote_ne rfl (by decide) (by simp) t
    have hrest : readOn? .start rounds (bracket.add 0) [] (quote t ++ ']' :: rest) =
        some ((bracket.addCharacters (t.length + 1)).contentDepth + 1, rest) := by
      rw [← contentDepth_add_addCharacters]
      exact ih (Nat.lt_of_succ_lt_succ hrounds) (.inr rfl)
    by_cases hplain : Escape.isPlain c
    · have hsigns : ∀ sign ∈ ['-', ']', '[', '&', '~'], '\\' ≠ sign :=
        List.forall_iff_forall_mem.1 (by decide)
      have hstep := step?_member bracket hsigns (skipMember?_plain hplain hdash) []
      rw [quote_cons_plain hplain]
      exact (readOn?_step hstep rounds).trans hrest
    · have hsigns : ∀ sign ∈ ['-', ']', '[', '&', '~'], Escape.isPlain sign :=
        List.forall_iff_forall_mem.1 (by decide)
      have hstep := step?_member bracket
        (fun sign hsign => ne_of_not_isPlain hplain (hsigns sign hsign))
        (skipMember?_self hplain hdash) []
      rw [quote_cons_self hplain]
      exact (readOn?_step hstep rounds).trans hrest

/-- The quoted characters of a text make a set, unless there are none. -/
theorem read?_quote (ht : t ≠ []) (rest : Text) :
    read? .start (quote t ++ ']' :: rest) =
      some (together (List.replicate t.length 0) + 1, rest) := by
  have hcaret : (quote t ++ ']' :: rest).head? ≠ some '^' :=
    head?_quote_ne rfl (by decide) (by simp) t
  have hopened : opened? .start (quote t ++ ']' :: rest) = some (quote t ++ ']' :: rest) := by
    simp only [opened?, Mode.skip_start]
    split
    · rename_i heq
      rw [heq] at hcaret
      exact absurd rfl hcaret
    · rfl
  have hrounds : t.length < (quote t ++ ']' :: rest).length + 1 := by
    have := length_le_quote t
    rw [List.length_append]
    omega
  rw [read?, hopened, Option.bind_eq_bind, Option.bind_some, readOn?_quote hrounds (.inl ht)]
  simp [addCharacters, start, contentDepth]

end Bracket

end SitePress.Pattern
