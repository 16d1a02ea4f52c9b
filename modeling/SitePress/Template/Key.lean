import SitePress.Text.Basic

/-!
# Keys

A key stands in parentheses and may hold parentheses of its own, as long as they
pair up; it ends at the parenthesis that closes the one in front of it.
-/

namespace SitePress.Key

/-- A text whose parentheses pair up. -/
structure Balanced (key : Text) : Prop where
  opened : ∀ front, front <+: key → front.count ')' ≤ front.count '('
  closed : key.count '(' = key.count ')'

/-- Splits a text at the first parenthesis that closes none of those opened in it,
`depth` more than are seen being open in front of the text. -/
def splitAt? (depth : Nat) : Text → Option (Text × Text)
  | [] => none
  | c :: rest =>
    if c = '(' then (splitAt? (depth + 1) rest).map fun (key, behind) => (c :: key, behind)
    else if c = ')' then
      match depth with
      | 0 => some ([], rest)
      | depth + 1 => (splitAt? depth rest).map fun (key, behind) => (c :: key, behind)
    else (splitAt? depth rest).map fun (key, behind) => (c :: key, behind)

/-- The key at the head of a text that follows an opening parenthesis, and the text
behind the parenthesis that closes it; `none` when nothing closes it. -/
def split? (t : Text) : Option (Text × Text) :=
  splitAt? 0 t

/-- Splitting only takes the closing parenthesis out. -/
theorem eq_of_splitAt? {depth : Nat} {t key rest : Text}
    (h : splitAt? depth t = some (key, rest)) : t = key ++ ')' :: rest := by
  fun_induction splitAt? depth t generalizing key with
  | case1 => contradiction
  | case2 depth t ih | case4 t depth _ ih | case5 depth c t _ _ ih =>
    simp only [Option.map_eq_some_iff, Prod.mk.injEq, Prod.exists] at h
    obtain ⟨k, r, hk, rfl, rfl⟩ := h
    simp [ih hk]
  | case3 t => simp_all

theorem eq_of_split? {t key rest : Text} (h : split? t = some (key, rest)) :
    t = key ++ ')' :: rest :=
  eq_of_splitAt? h

end SitePress.Key
