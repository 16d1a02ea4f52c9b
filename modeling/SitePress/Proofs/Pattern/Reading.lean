import SitePress.Pattern.Validity
import SitePress.Proofs.Pattern.Bracket

/-!
# Patterns are read to their end

The reader of patterns counts rounds.  Here its steps are put together without a count: a text is
read if sign by sign and part by part nothing is left of it.  As every step takes a character, the
rounds that the reader has are enough, so a text is a pattern if and only if it can be read, with
all groups closed and none too deep.  No two groups of it have the same name.
-/

namespace SitePress.Pattern

variable {mode : Mode} {t rest behind : Text} {c : Char}

/-! ## Every step makes progress -/

theorem length_le_of_flags? {seen : List Char} {found : Mode} {any : Bool}
    (h : flags? mode seen t = some (found, any, rest)) : rest.length ≤ t.length := by
  fun_induction flags? mode seen t with
  | case1 => contradiction
  | case2 => contradiction
  | case3 mode seen c t =>
    obtain ⟨-, -, rfl⟩ : mode = found ∧ (!seen.isEmpty) = any ∧ c :: t = rest := by simpa using h
    exact Nat.le_refl _
  | case4 => contradiction
  | case5 _ _ _ _ _ ih => exact Nat.le_succ_of_le (ih h)
  | case6 _ _ _ _ _ _ _ _ ih => exact Nat.le_succ_of_le (ih h)
  | case7 => contradiction

theorem length_le_of_name? {name : Text} (h : name? t = some (name, rest)) :
    rest.length ≤ t.length := by
  unfold name? at h
  grind [List.length_dropWhile_le]

theorem length_le_of_single? {depth : Nat} (h : single? mode c t = some (depth, rest)) :
    rest.length ≤ t.length := by
  unfold single? at h
  grind [→ Bracket.length_lt_of_read?, → Escape.length_lt_of_read?, Option.bind_eq_some_iff]

namespace Reading

variable {reading next final : Reading}

theorem length_le_of_enterNamed? (h : reading.enterNamed? t = some (next, rest)) :
    rest.length ≤ t.length := by
  obtain ⟨⟨name, behind⟩, hname, h⟩ := Option.bind_eq_some_iff.1 h
  have := length_le_of_name? hname
  grind

theorem length_le_of_switch? (h : reading.switch? t = some (next, rest)) :
    rest.length ≤ t.length := by
  obtain ⟨⟨mode, any, behind⟩, hflags, h⟩ := Option.bind_eq_some_iff.1 h
  have := length_le_of_flags? hflags
  grind

theorem length_le_of_parenthesis? (h : reading.parenthesis? t = some (next, rest)) :
    rest.length ≤ t.length := by
  have := reading.group.mode.length_skip_le t
  unfold parenthesis? at h
  grind [→ length_le_of_enterNamed?, → length_le_of_switch?]

theorem length_le_of_step? (h : reading.step? c t = some (next, rest)) :
    rest.length ≤ t.length := by
  unfold step? at h
  grind [→ length_le_of_parenthesis?, → length_le_of_single?, Option.bind_eq_some_iff,
    Option.map_eq_some_iff]

/-! ## Reading without rounds -/

/-- A text is read to its end, one sign or part at a time. -/
inductive Reads : Reading → Text → Reading → Prop
  | finished {reading : Reading} {t : Text} (hskip : reading.group.mode.skip t = []) :
    Reads reading t reading
  | step {reading next final : Reading} {t rest behind : Text} {c : Char}
    (hskip : reading.group.mode.skip t = c :: rest)
    (hstep : reading.step? c rest = some (next, behind)) (hreads : Reads next behind final) :
    Reads reading t final

theorem readOn?_eq_some_iff {rounds : Nat} (hrounds : t.length < rounds) :
    readOn? rounds reading t = some final ↔ Reads reading t final := by
  induction rounds generalizing reading t with
  | zero => contradiction
  | succ rounds ih =>
    unfold readOn?
    constructor
    · intro h
      split at h
      · obtain rfl := Option.some.inj h
        exact .finished ‹_›
      · rename_i c rest hskip
        obtain ⟨⟨next, behind⟩, hstep, h⟩ := Option.bind_eq_some_iff.1 h
        have := Mode.length_lt_of_skip hskip
        have := length_le_of_step? hstep
        exact .step hskip hstep ((ih (by omega)).1 h)
    · rintro (hskip | ⟨hskip, hstep, hreads⟩)
      · rw [hskip]
      · have := Mode.length_lt_of_skip hskip
        have := length_le_of_step? hstep
        simp only [hskip, hstep, Option.bind_eq_bind, Option.bind_some]
        exact (ih (by omega)).2 hreads

/-- A text is read in one way only. -/
theorem Reads.unique {other : Reading} (h : Reads reading t final)
    (hother : Reads reading t other) :
    final = other := by
  have hrounds := Nat.lt_succ_self t.length
  exact Option.some.inj
    (((readOn?_eq_some_iff hrounds).2 h).symm.trans ((readOn?_eq_some_iff hrounds).2 hother))

end Reading

/-- A text is a pattern if it can be read, no group is left open, and none is too deep. -/
theorem isValid_iff : isValid t ↔ ∃ final, Reading.Reads .start t final ∧
    final.outer = [] ∧ final.group.depth ≤ depthLimit := by
  have hiff : ∀ final, Reading.readOn? (t.length + 1) .start t = some final ↔
      Reading.Reads .start t final :=
    fun final => Reading.readOn?_eq_some_iff (Nat.lt_succ_self t.length)
  unfold isValid
  constructor
  · intro h
    split at h
    · contradiction
    · rename_i final hread
      rw [Bool.and_eq_true, List.isEmpty_iff, decide_eq_true_iff] at h
      exact ⟨final, (hiff final).1 hread, h⟩
  · rintro ⟨final, hreads, houter, hdepth⟩
    rw [(hiff final).2 hreads]
    simp [houter, hdepth]

/-! ## Names of groups -/

namespace Reading

variable {reading next final : Reading}

theorem names_enterNamed? (h : reading.enterNamed? t = some (next, rest)) :
    ∃ name ∉ reading.names, next.names = name :: reading.names := by
  obtain ⟨⟨name, behind⟩, -, h⟩ := Option.bind_eq_some_iff.1 h
  refine ⟨name, ?_⟩
  grind

theorem names_switch? (h : reading.switch? t = some (next, rest)) :
    next.names = reading.names := by
  obtain ⟨⟨mode, any, behind⟩, -, h⟩ := Option.bind_eq_some_iff.1 h
  grind [enter]

/-- A step adds a new name or none. -/
theorem names_step? (h : reading.step? c t = some (next, rest)) :
    next.names = reading.names ∨ ∃ name ∉ reading.names, next.names = name :: reading.names := by
  unfold step? parenthesis? leave? at h
  grind [→ names_enterNamed?, → names_switch?, enter, Option.bind_eq_some_iff,
    Option.map_eq_some_iff]

/-- No two groups have the same name. -/
theorem Reads.nodup_names (h : Reads reading t final) (hnames : reading.names.Nodup) :
    final.names.Nodup := by
  induction h with
  | finished => exact hnames
  | step _ hstep _ ih =>
    apply ih
    rcases names_step? hstep with hsame | ⟨name, hnew, hnext⟩
    · rwa [hsame]
    · rw [hnext]
      exact List.nodup_cons.2 ⟨hnew, hnames⟩

end Reading

end SitePress.Pattern
