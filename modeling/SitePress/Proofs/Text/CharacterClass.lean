import SitePress.Text.CharacterClass.Word

/-!
# Classes that have no character in common

Two classes are disjoint if no range of the one meets one of the other, which can be decided range
by range.  So a blank is no letter and no number, and nothing that starts with one of these has
blanks in front of it.
-/

namespace SitePress.CharacterClass

variable {c : Char}

theorem among_iff {ranges : List (Nat × Nat)} :
    among ranges c ↔ ∃ range ∈ ranges, range.1 ≤ c.toNat ∧ c.toNat ≤ range.2 := by
  simp [among]

theorem not_among_of_apart {ranges others : List (Nat × Nat)}
    (hapart : ∀ range ∈ ranges, ∀ other ∈ others, range.2 < other.1 ∨ other.2 < range.1)
    (h : among ranges c) : ¬ among others c := by
  intro hother
  obtain ⟨range, hrange, hlow, hhigh⟩ := among_iff.1 h
  obtain ⟨other, hmem, hlow', hhigh'⟩ := among_iff.1 hother
  have := hapart range hrange other hmem
  omega

theorem not_isWhiteSpace_of_isAlphanumeric (h : isAlphanumeric c) : ¬ isWhiteSpace c := by
  rcases Bool.or_eq_true_iff.1 h with hletter | hnumber
  · exact not_among_of_apart (by decide +kernel) hletter
  · exact not_among_of_apart (by decide +kernel) hnumber

end SitePress.CharacterClass
