import SitePress.Text.Basic

/-!
# Longest runs

A part of a marker is read as the longest run of characters of one class.  Here such
a run is described without saying how it is found, and found to be unique, so that
a text determines its parts.
-/

namespace SitePress

/-- The text `t` starts with `run`, all of whose characters satisfy `p`, and the text
`rest` behind it starts with none that does. -/
structure LongestRun (p : Char → Bool) (t run rest : Text) : Prop where
  split : t = run ++ rest
  all : ∀ c ∈ run, p c
  stop : ∀ c ∈ rest.head?, ¬ p c

namespace LongestRun

variable {p : Char → Bool} {t run rest : Text}

theorem takeWhile (p : Char → Bool) (t : Text) :
    LongestRun p t (t.takeWhile p) (t.dropWhile p) where
  split := List.takeWhile_append_dropWhile.symm
  all := List.all_eq_true.1 List.all_takeWhile
  stop := by
    intro c hc
    have h := List.head?_dropWhile_not p t
    rw [Option.mem_def.1 hc] at h
    simpa using h

theorem exists_run (p : Char → Bool) (t : Text) : ∃ run rest, LongestRun p t run rest :=
  ⟨_, _, takeWhile p t⟩

private theorem takeWhile_of_stop (stop : ∀ c ∈ rest.head?, ¬ p c) : rest.takeWhile p = [] := by
  cases rest with
  | nil => rfl
  | cons c rest => exact List.takeWhile_cons_of_neg (stop c rfl)

private theorem dropWhile_of_stop (stop : ∀ c ∈ rest.head?, ¬ p c) : rest.dropWhile p = rest := by
  cases rest with
  | nil => rfl
  | cons c rest => exact List.dropWhile_cons_of_neg (stop c rfl)

/-- There is one longest run. -/
theorem takeWhile_eq (h : LongestRun p t run rest) : t.takeWhile p = run := by
  rw [h.split, List.takeWhile_append_of_pos h.all, takeWhile_of_stop h.stop, List.append_nil]

theorem dropWhile_eq (h : LongestRun p t run rest) : t.dropWhile p = rest := by
  rw [h.split, List.dropWhile_append_of_pos h.all, dropWhile_of_stop h.stop]

/-! ## More text behind a run -/

theorem ne_nil (h : LongestRun p t run rest) (hrest : rest ≠ []) : t ≠ [] := by
  rw [h.split]
  exact List.append_ne_nil_of_right_ne_nil run hrest

/-- A run that was stopped by a character stays what it is when more text follows. -/
theorem append (h : LongestRun p t run rest) (hrest : rest ≠ []) (more : Text) :
    LongestRun p (t ++ more) run (rest ++ more) where
  split := by rw [h.split, List.append_assoc]
  all := h.all
  stop := by
    cases rest with
    | nil => exact absurd rfl hrest
    | cons c rest => exact h.stop

/-- A run that more text follows is as long as before or longer. -/
theorem takeWhile_append (h : LongestRun p t run rest) (more : Text) :
    (t ++ more).takeWhile p = run ++ (rest ++ more).takeWhile p := by
  rw [h.split, List.append_assoc, List.takeWhile_append_of_pos h.all]

end LongestRun

end SitePress
