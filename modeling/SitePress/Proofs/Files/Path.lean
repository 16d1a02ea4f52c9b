import SitePress.Files.Path

/-!
# Names in a directory

A name without slash that is joined to a directory is the last of the names that the
path goes through, however the directory is written: empty, with slashes at its end, or
absolute.  A path that is joined may have slashes of its own; then only its last part is
the last name, and if it is absolute the directory is not gone through at all.
-/

namespace SitePress.Path

variable {name : Text}

/-! ## Joining -/

private theorem not_isAbsolute (hslash : '/' ∉ name) : isAbsolute name = false := by
  cases name with
  | nil => rfl
  | cons c name =>
    have hc : c ≠ '/' := fun h => hslash (h ▸ List.mem_cons_self)
    simp [isAbsolute, hc]

/-- A name is put behind a directory, with a slash between the two if there is none yet. -/
theorem join_eq_of_name (directory : Text) (hslash : '/' ∉ name) :
    join directory name =
      if directory = [] then name
      else if endsInSlash directory then directory ++ name else directory ++ '/' :: name := by
  by_cases hempty : directory = [] <;> simp [join, not_isAbsolute hslash, hempty]

theorem isAbsolute_join (directory : Text) (hslash : '/' ∉ name) :
    isAbsolute (join directory name) = isAbsolute directory := by
  rw [join_eq_of_name directory hslash]
  cases directory with
  | nil => exact not_isAbsolute hslash
  | cons c directory => by_cases hend : endsInSlash (c :: directory) <;> simp [hend, isAbsolute]

/-- The names of a joined path are those of the directory and those of the path, but an
absolute path goes without the directory. -/
theorem names_join_eq (directory path : Text) :
    names (join directory path) =
      (if isAbsolute path then [] else names directory) ++ names path := by
  unfold join
  by_cases habsolute : isAbsolute path
  · simp [habsolute]
  by_cases hempty : directory = []
  · simp [hempty]
  by_cases hend : endsInSlash directory
  · obtain ⟨front, rfl⟩ : ∃ front, directory = front ++ ['/'] := by
      simpa [endsInSlash, List.getLast?_eq_some_iff] using hend
    simp [habsolute, hempty, hend]
  · simp [habsolute, hempty, hend]

/-- A name in a directory is reached by the names of the directory. -/
theorem names_join (directory : Text) (hne : name ≠ []) (hslash : '/' ∉ name) :
    names (join directory name) = names directory ++ [name] := by
  rw [names_join_eq, not_isAbsolute hslash, names_eq_singleton hne hslash]
  rfl

/-! ## Parts of paths -/

/-- Every path is a part without slash behind nothing, or behind text up to a slash. -/
theorem exists_last_part (path : Text) :
    ∃ front last, path = front ++ last ∧ (front = [] ∨ ∃ up, front = up ++ ['/']) ∧
      '/' ∉ last := by
  induction path with
  | nil => exact ⟨[], [], rfl, .inl rfl, List.not_mem_nil⟩
  | cons c path ih =>
    obtain ⟨front, last, rfl, rfl | ⟨up, rfl⟩, hslash⟩ := ih
    · by_cases hc : c = '/'
      · subst hc
        exact ⟨['/'], last, rfl, .inr ⟨[], rfl⟩, hslash⟩
      · exact ⟨[], c :: last, rfl, .inl rfl, by simp [Ne.symm hc, hslash]⟩
    · exact ⟨c :: up ++ ['/'], last, rfl, .inr ⟨c :: up, rfl⟩, hslash⟩

/-- A character in front makes the first name longer, and the others stay. -/
theorem exists_names_cons {c : Char} (hc : c ≠ '/') (path : Text) :
    ∃ first behind, names (c :: path) = (c :: first) :: behind ∧
      names path = (if first = [] then [] else [first]) ++ behind := by
  have hname {first : Text} (hfirst : '/' ∉ first) :
      names (c :: first) = [c :: first] ∧ names first = if first = [] then [] else [first] := by
    refine ⟨names_eq_singleton (List.cons_ne_nil _ _) (by simp [Ne.symm hc, hfirst]), ?_⟩
    by_cases hempty : first = []
    · rw [if_pos hempty, hempty, names_nil]
    · rw [if_neg hempty, names_eq_singleton hempty hfirst]
  by_cases hslash : '/' ∈ path
  · obtain ⟨first, rest, rfl, hfirst⟩ := List.eq_append_cons_of_mem hslash
    refine ⟨first, names rest, ?_, ?_⟩
    · rw [← List.cons_append, names_append_slash, (hname hfirst).1, List.singleton_append]
    · rw [names_append_slash, (hname hfirst).2]
  · exact ⟨path, [], (hname hslash).1, by rw [List.append_nil, (hname hslash).2]⟩

/-! ## Plain names -/

/-- A name leads down by one place: it is not empty, has no slash, and is not one of the two
dotted names that stay or go up. -/
structure Plain (name : Text) : Prop where
  ne_nil : name ≠ []
  slash : '/' ∉ name
  dot : name ≠ ['.']
  dots : name ≠ ['.', '.']

theorem plain_of_length (hslash : '/' ∉ name) (hlength : 2 < name.length) : Plain name := by
  refine ⟨?_, hslash, ?_, ?_⟩ <;>
  · rintro rfl
    exact absurd hlength (by decide)

end SitePress.Path
