import SitePress.Template.Key

/-!
# The matching parenthesis

The scan for the end of a key counts how many parentheses are open.  It stops where a
balanced key is closed: a text is split exactly when it is a balanced key, a closing
parenthesis and a rest, and there is at most one such split.

## Main definitions

* `Key.LeavesOpen` — the texts that close so many parentheses at most.
* `Key.Closes` — the texts that close what they open and so many parentheses more.
-/

namespace SitePress.Key

variable {depth : Nat} {c : Char} {t key rest : Text}

/-! ## Texts inside open parentheses -/

/-- A text that follows `depth` open parentheses and one more in front of these: it never
comes to close that one. -/
def LeavesOpen (depth : Nat) (t : Text) : Prop :=
  ∀ front, front <+: t → front.count ')' ≤ depth + front.count '('

/-- A text that follows `depth` open parentheses and closes them all, together with
those it opens itself, but none before it is opened. -/
structure Closes (depth : Nat) (key : Text) : Prop where
  opened : ∀ front, front <+: key → front.count ')' ≤ depth + front.count '('
  closed : depth + key.count '(' = key.count ')'

theorem balanced_iff_closes : Balanced key ↔ Closes 0 key := by
  constructor
  · intro h
    exact ⟨fun front hfront => by simpa using h.opened front hfront, by simpa using h.closed⟩
  · intro h
    exact ⟨fun front hfront => by simpa using h.opened front hfront, by simpa using h.closed⟩

private theorem forall_prefix_cons {P : Text → Prop} :
    (∀ front, front <+: c :: key → P front) ↔
      P [] ∧ ∀ front, front <+: key → P (c :: front) := by
  constructor
  · intro h
    exact ⟨h [] List.nil_prefix, fun front hfront => h _ (List.cons_prefix_cons.2 ⟨rfl, hfront⟩)⟩
  · rintro ⟨hnil, hcons⟩ front hfront
    rcases List.prefix_cons_iff.1 hfront with rfl | ⟨behind, rfl, hbehind⟩
    · exact hnil
    · exact hcons behind hbehind

private theorem count_cons (d : Char) (t : Text) : (c :: t).count d = [c].count d + t.count d := by
  rw [← List.count_append, List.singleton_append]

theorem leavesOpen_nil : LeavesOpen depth [] := by
  intro front hfront
  simp [List.prefix_nil.1 hfront]

/-- A character changes the number of open parentheses, and nothing else counts. -/
theorem leavesOpen_cons {next : Nat} (hnext : depth + [c].count '(' = next + [c].count ')') :
    LeavesOpen depth (c :: t) ↔ LeavesOpen next t := by
  unfold LeavesOpen
  rw [forall_prefix_cons]
  refine (and_iff_right (Nat.zero_le _)).trans ?_
  refine forall_congr' fun front => imp_congr_right fun _ => ?_
  rw [count_cons ')' front, count_cons '(' front]
  omega

private theorem count_other (hopen : c ≠ '(') (hclose : c ≠ ')') :
    depth + [c].count '(' = depth + [c].count ')' := by
  rw [List.count_eq_zero.2 (by simp [hopen.symm]), List.count_eq_zero.2 (by simp [hclose.symm])]

theorem leavesOpen_open : LeavesOpen depth ('(' :: t) ↔ LeavesOpen (depth + 1) t :=
  leavesOpen_cons rfl

theorem leavesOpen_close : LeavesOpen (depth + 1) (')' :: t) ↔ LeavesOpen depth t :=
  leavesOpen_cons rfl

theorem leavesOpen_other (hopen : c ≠ '(') (hclose : c ≠ ')') :
    LeavesOpen depth (c :: t) ↔ LeavesOpen depth t :=
  leavesOpen_cons (count_other hopen hclose)

/-- Nothing can be closed that is not open. -/
theorem not_leavesOpen_zero : ¬ LeavesOpen 0 (')' :: t) := by
  intro h
  have := h [')'] ⟨t, rfl⟩
  simp at this

theorem closes_nil : Closes depth [] ↔ depth = 0 := by
  constructor
  · intro h
    simpa using h.closed
  · rintro rfl
    exact ⟨leavesOpen_nil, rfl⟩

theorem closes_cons {next : Nat} (hnext : depth + [c].count '(' = next + [c].count ')') :
    Closes depth (c :: key) ↔ Closes next key := by
  have hcounts : depth + (c :: key).count '(' = (c :: key).count ')' ↔
      next + key.count '(' = key.count ')' := by
    rw [count_cons '(' key, count_cons ')' key]
    omega
  constructor
  · rintro ⟨opened, closed⟩
    exact ⟨(leavesOpen_cons hnext).1 opened, hcounts.1 closed⟩
  · rintro ⟨opened, closed⟩
    exact ⟨(leavesOpen_cons hnext).2 opened, hcounts.2 closed⟩

theorem closes_open : Closes depth ('(' :: key) ↔ Closes (depth + 1) key :=
  closes_cons rfl

theorem closes_close : Closes (depth + 1) (')' :: key) ↔ Closes depth key :=
  closes_cons rfl

theorem closes_other (hopen : c ≠ '(') (hclose : c ≠ ')') :
    Closes depth (c :: key) ↔ Closes depth key :=
  closes_cons (count_other hopen hclose)

theorem not_closes_zero : ¬ Closes 0 (')' :: key) :=
  fun h => not_leavesOpen_zero h.opened

/-! ## The split -/

/-- The scan goes past the whole of a text that closes what is open. -/
theorem splitAt?_append (h : Closes depth key) (rest : Text) :
    splitAt? depth (key ++ ')' :: rest) = some (key, rest) := by
  induction key generalizing depth with
  | nil =>
    obtain rfl := closes_nil.1 h
    rfl
  | cons c key ih =>
    by_cases hopen : c = '('
    · subst hopen
      simp [splitAt?, ih (closes_open.1 h)]
    · by_cases hclose : c = ')'
      · subst hclose
        cases depth with
        | zero => exact absurd h not_closes_zero
        | succ depth => simp [splitAt?, ih (closes_close.1 h)]
      · simp [splitAt?, hopen, hclose, ih ((closes_other hopen hclose).1 h)]

theorem closes_of_splitAt? (h : splitAt? depth t = some (key, rest)) : Closes depth key := by
  fun_induction splitAt? depth t generalizing key with
  | case1 => contradiction
  | case2 depth t ih =>
    simp only [Option.map_eq_some_iff, Prod.mk.injEq, Prod.exists] at h
    obtain ⟨k, r, hk, rfl, rfl⟩ := h
    exact closes_open.2 (ih hk)
  | case3 t =>
    cases h
    exact closes_nil.2 rfl
  | case4 t depth _ ih =>
    simp only [Option.map_eq_some_iff, Prod.mk.injEq, Prod.exists] at h
    obtain ⟨k, r, hk, rfl, rfl⟩ := h
    exact closes_close.2 (ih hk)
  | case5 depth c t hopen hclose ih =>
    simp only [Option.map_eq_some_iff, Prod.mk.injEq, Prod.exists] at h
    obtain ⟨k, r, hk, rfl, rfl⟩ := h
    exact (closes_other hopen hclose).2 (ih hk)

/-- The scan takes a key and goes on with a rest if and only if the text is a balanced
key, a closing parenthesis and the rest. -/
theorem split?_eq_some_iff :
    split? t = some (key, rest) ↔ t = key ++ ')' :: rest ∧ Balanced key := by
  rw [balanced_iff_closes]
  constructor
  · intro h
    exact ⟨eq_of_split? h, closes_of_splitAt? h⟩
  · rintro ⟨rfl, h⟩
    exact splitAt?_append h rest

theorem Balanced.split?_append (h : Balanced key) (rest : Text) :
    split? (key ++ ')' :: rest) = some (key, rest) :=
  splitAt?_append (balanced_iff_closes.1 h) rest

/-- The scan runs to the end of the text if and only if no balanced key is closed in it. -/
theorem split?_eq_none_iff :
    split? t = none ↔ ∀ key rest, Balanced key → t ≠ key ++ ')' :: rest := by
  rw [Option.eq_none_iff_forall_ne_some, Prod.forall]
  simp only [ne_eq, split?_eq_some_iff, not_and']

/-- A balanced key ends at one place only. -/
theorem Balanced.append_inj {other behind : Text} (hkey : Balanced key) (hother : Balanced other)
    (h : key ++ ')' :: rest = other ++ ')' :: behind) : key = other ∧ rest = behind := by
  have hsplit := hkey.split?_append rest
  rw [h, hother.split?_append behind] at hsplit
  cases hsplit
  exact ⟨rfl, rfl⟩

/-! ## Keys without their end -/

/-- The scan runs to the end of the text if and only if the text leaves a parenthesis open. -/
theorem splitAt?_eq_none_iff : splitAt? depth t = none ↔ LeavesOpen depth t := by
  fun_induction splitAt? depth t with
  | case1 depth => exact iff_of_true rfl leavesOpen_nil
  | case2 depth t ih => rw [Option.map_eq_none_iff, ih, leavesOpen_open]
  | case3 t => exact iff_of_false (Option.some_ne_none _) not_leavesOpen_zero
  | case4 t depth _ ih => rw [Option.map_eq_none_iff, ih, leavesOpen_close]
  | case5 depth c t hopen hclose ih =>
    rw [Option.map_eq_none_iff, ih, leavesOpen_other hopen hclose]

theorem split?_eq_none_iff_leavesOpen : split? t = none ↔ LeavesOpen 0 t :=
  splitAt?_eq_none_iff

private theorem closes_replicate (depth : Nat) : Closes depth (List.replicate depth ')') := by
  induction depth with
  | zero => exact closes_nil.2 rfl
  | succ depth ih => exact closes_close.2 ih

/-- A scan that runs to the end of the text has found nothing but parentheses that are still
open, so some closing parentheses more close them all. -/
theorem exists_closes_append_of_splitAt? (h : splitAt? depth t = none) :
    ∃ n, Closes depth (t ++ List.replicate n ')') := by
  fun_induction splitAt? depth t with
  | case1 depth => exact ⟨depth, closes_replicate depth⟩
  | case2 depth t ih =>
    obtain ⟨n, hn⟩ := ih (Option.map_eq_none_iff.1 h)
    exact ⟨n, closes_open.2 hn⟩
  | case3 t => contradiction
  | case4 t depth _ ih =>
    obtain ⟨n, hn⟩ := ih (Option.map_eq_none_iff.1 h)
    exact ⟨n, closes_close.2 hn⟩
  | case5 depth c t hopen hclose ih =>
    obtain ⟨n, hn⟩ := ih (Option.map_eq_none_iff.1 h)
    exact ⟨n, (closes_other hopen hclose).2 hn⟩

/-- A text in which no balanced key is closed is the start of a balanced key. -/
theorem exists_balanced_append (h : ∀ key rest, Balanced key → t ≠ key ++ ')' :: rest) :
    ∃ n, Balanced (t ++ List.replicate n ')') := by
  obtain ⟨n, hn⟩ := exists_closes_append_of_splitAt? (split?_eq_none_iff.2 h)
  exact ⟨n, balanced_iff_closes.2 hn⟩

end SitePress.Key
