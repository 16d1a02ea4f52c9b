import SitePress.Proofs.Files.Denotation

/-!
# Paths within the limits

Some paths cannot be used in any tree: those that hold a NUL character, and those that are
too long or go through a name that is.  A path that can be followed is none of them.  Of a
path within these limits only the tree can say that it leads nowhere, and where one name in
a directory can be looked up, so can every other that is within the limits.
-/

namespace SitePress.FileTree

variable {tree : FileTree} {path text directory name other : Text} {location target : Location}
  {names : List Text} {cause : FileError}

/-- A path is within the limits of file systems: it has no NUL, is not too long, and goes
through no name that is. -/
structure WithinLimits (path : Text) : Prop where
  nul : '\x00' ∉ path
  size : Text.utf8Size path < pathLimit
  names : ∀ name ∈ Path.names path, Text.utf8Size name ≤ nameLimit

/-! ## Following names -/

theorem walk_append (tree : FileTree) (location : Location) (front behind : List Text) :
    tree.walk location (front ++ behind) =
      (tree.walk location front).bind fun middle => tree.walk middle behind := by
  induction front generalizing location with
  | nil => rfl
  | cons name front ih =>
    rw [List.cons_append, walk, walk]
    split
    · rfl
    · rfl
    · split
      · rfl
      · exact ih _

theorem utf8Size_le_of_walk (h : tree.walk location names = .ok target) :
    ∀ name ∈ names, Text.utf8Size name ≤ nameLimit := by
  induction names generalizing location with
  | nil => simp
  | cons name names ih =>
    obtain ⟨-, hsize, hrest⟩ := walk_cons_eq_ok_iff.1 h
    exact List.forall_mem_cons.2 ⟨hsize, ih hrest⟩

/-- Names that are not too long are not followed only where the tree has no directory. -/
theorem walk_eq_error (hnames : ∀ name ∈ names, Text.utf8Size name ≤ nameLimit)
    (h : tree.walk location names = .error cause) :
    cause = .notFound ∨ cause = .notADirectory := by
  induction names generalizing location with
  | nil => cases h
  | cons name names ih =>
    obtain ⟨hname, hrest⟩ := List.forall_mem_cons.1 hnames
    unfold walk at h
    split at h
    · cases h
      exact .inl rfl
    · cases h
      exact .inr rfl
    · rw [if_neg (Nat.not_lt.2 hname)] at h
      exact ih hrest h

/-! ## Following paths -/

/-- A path that can be followed is within the limits. -/
theorem withinLimits_of_resolve (h : tree.resolve path = .ok location) : WithinLimits path := by
  obtain ⟨hnul, -, hsize, hwalk⟩ := resolve_eq_ok_iff.1 h
  exact ⟨hnul, hsize, utf8Size_le_of_walk hwalk⟩

theorem withinLimits_of_read (h : tree.read path = .ok text) : WithinLimits path := by
  obtain ⟨location, hlocation, -⟩ := readBytes_eq_ok_iff.1 (read_eq_ok_iff.1 h)
  exact withinLimits_of_resolve hlocation.resolve

/-- Within the limits, a path is not followed only where the tree has no directory. -/
theorem WithinLimits.resolve_eq_error (hpath : WithinLimits path)
    (h : tree.resolve path = .error cause) : cause = .notFound ∨ cause = .notADirectory := by
  unfold resolve at h
  rw [if_neg hpath.nul, if_neg (Nat.not_le.2 hpath.size)] at h
  split at h
  · cases h
    exact .inl rfl
  · exact walk_eq_error hpath.names h

/-- Within the limits, a file is not written only where the tree has no directory to put it
into or has a directory in its place. -/
theorem WithinLimits.write_eq_error (hpath : WithinLimits path)
    (h : tree.write path text = .error cause) :
    cause = .notFound ∨ cause = .notADirectory ∨ cause = .isADirectory := by
  cases hresolve : tree.resolve path with
  | error found =>
    rw [write, writeBytes, hresolve] at h
    cases h
    exact (hpath.resolve_eq_error hresolve).imp_right .inl
  | ok location =>
    simp only [write, writeBytes, hresolve, bind, Except.bind] at h
    split at h
    · cases h
      exact .inr (.inr rfl)
    · split at h
      · cases h
        exact .inr (.inr rfl)
      · cases h

/-- A path that can be followed and does not ask for a directory is not written to only if a
directory is where it leads. -/
theorem write_eq_error_iff (hresolve : tree.resolve path = .ok location)
    (hslash : ¬ Path.endsInSlash path) :
    tree.write path text = .error cause ↔
      cause = .isADirectory ∧ tree.find? location = some .directory := by
  simp only [write, writeBytes, hresolve, bind, Except.bind, if_neg hslash]
  cases tree.find? location with
  | none => simp
  | some entry =>
    cases entry with
    | directory => simp [eq_comm]
    | file bytes => simp

/-! ## Names in one directory -/

/-- Where one name in a directory is looked up, another one can be that is within the limits. -/
theorem exists_resolve_join (h : tree.resolve (Path.join directory name) = .ok location)
    (hname : name ≠ [] ∧ '/' ∉ name) (hother : other ≠ [] ∧ '/' ∉ other)
    (hlimits : WithinLimits (Path.join directory other)) :
    ∃ place, tree.resolve (Path.join directory other) = .ok place := by
  have hstart {name : Text} (hslash : '/' ∉ name) :
      tree.start (Path.join directory name) = tree.start directory := by
    rw [start, start, Path.isAbsolute_join directory hslash]
  obtain ⟨-, -, -, hwalk⟩ := resolve_eq_ok_iff.1 h
  rw [hstart hname.2, Path.names_join directory hname.1 hname.2, walk_append] at hwalk
  cases hdirectory : tree.walk (tree.start directory) (Path.names directory) with
  | error found =>
    rw [hdirectory] at hwalk
    cases hwalk
  | ok place =>
    rw [hdirectory] at hwalk
    obtain ⟨hfound, -, -⟩ := walk_cons_eq_ok_iff.1 hwalk
    refine ⟨place.follow other, resolve_eq_ok_iff.2 ⟨hlimits.nul, ?_, hlimits.size, ?_⟩⟩
    · intro hempty
      have hnames := Path.names_join directory hother.1 hother.2
      rw [hempty, Path.names_nil] at hnames
      exact List.append_ne_nil_of_right_ne_nil _ (List.cons_ne_nil _ _) hnames.symm
    · have hsize : Text.utf8Size other ≤ nameLimit := by
        apply hlimits.names
        rw [Path.names_join directory hother.1 hother.2]
        exact List.mem_append_right _ (List.mem_singleton_self other)
      rw [hstart hother.2, Path.names_join directory hother.1 hother.2, walk_append, hdirectory]
      exact walk_cons_eq_ok_iff.2 ⟨hfound, hsize, rfl⟩

end SitePress.FileTree
