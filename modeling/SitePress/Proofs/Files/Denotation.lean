import SitePress.Files.Tree
import SitePress.Proofs.Except
import SitePress.Proofs.Files.Path

/-!
# The files that paths mean

A path means a file if it can be followed to a place where a file is or can be made.
Reading gives what is at that place, and writing changes what is there and nothing
else.  Since writing makes no directory and takes none away, paths mean the same
files for as long as files are only written, although a path that cannot be followed
may find another obstacle later.

## Main definitions

* `FileTree.Denotes`, `FileTree.SameFile` — the place of the file that a path means.
* `FileTree.SameDirectories` — that two trees have the same directories.
-/

namespace SitePress

namespace FileTree

variable {tree after other : FileTree} {path : Text} {location target : Location}
  {name : Text} {names : List Text} {bytes : ByteArray}

/-! ## Following paths -/

theorem walk_cons_eq_ok_iff :
    tree.walk location (name :: names) = .ok target ↔
      tree.find? location = some .directory ∧ Text.utf8Size name ≤ nameLimit ∧
        tree.walk (location.follow name) names = .ok target := by
  rw [walk]
  cases tree.find? location with
  | none => simp
  | some entry =>
    cases entry with
    | file bytes => simp
    | directory =>
      by_cases hsize : nameLimit < Text.utf8Size name
      · simp [hsize, Nat.not_le.2 hsize]
      · simp [hsize, Nat.not_lt.1 hsize]

theorem resolve_eq_ok_iff :
    tree.resolve path = .ok location ↔
      '\x00' ∉ path ∧ path ≠ [] ∧ Text.utf8Size path < pathLimit ∧
        tree.walk (tree.start path) (Path.names path) = .ok location := by
  rw [resolve]
  by_cases hnul : '\x00' ∈ path
  · simp [hnul]
  · by_cases hempty : path = []
    · simp [hempty]
    · by_cases hlong : pathLimit ≤ Text.utf8Size path
      · simp [hnul, hempty, hlong, Nat.not_lt.2 hlong]
      · simp [hnul, hempty, hlong, Nat.not_le.1 hlong]

/-! ## Files -/

/-- The path means the file at the location, which need not be there already: it can be
followed to this place, it does not ask for a directory, and no directory is there. -/
structure Denotes (tree : FileTree) (path : Text) (location : Location) : Prop where
  resolve : tree.resolve path = .ok location
  slash : ¬ Path.endsInSlash path
  file : tree.find? location ≠ some .directory

/-- Two paths mean one file. -/
def SameFile (tree : FileTree) (path other : Text) : Prop :=
  ∃ location, tree.Denotes path location ∧ tree.Denotes other location

theorem Denotes.eq_locate (h : tree.Denotes path location) : location = tree.locate path :=
  eq_locate_of_resolve h.resolve

/-- A path means one file. -/
theorem Denotes.unique (h : tree.Denotes path location) (hother : tree.Denotes path target) :
    location = target :=
  Except.ok.inj (h.resolve.symm.trans hother.resolve)

/-- The bytes that are read are those of the file that the path means. -/
theorem readBytes_eq_ok_iff :
    tree.readBytes path = .ok bytes ↔
      ∃ location, tree.Denotes path location ∧ tree.find? location = some (.file bytes) := by
  rw [readBytes, except_bind_eq_ok_iff]
  refine exists_congr fun location => ?_
  constructor
  · rintro ⟨hresolve, hread⟩
    split at hread
    · contradiction
    · contradiction
    next found hfound =>
      split at hread
      · contradiction
      next hslash =>
        cases hread
        exact ⟨⟨hresolve, hslash, by simp [hfound]⟩, hfound⟩
  · rintro ⟨⟨hresolve, hslash, -⟩, hfound⟩
    exact ⟨hresolve, by simp [hfound, hslash]⟩

/-- The text that is read is the one whose bytes the file has. -/
theorem read_eq_ok_iff {text : Text} :
    tree.read path = .ok text ↔ tree.readBytes path = .ok (Text.encode text) := by
  rw [read, except_bind_eq_ok_iff]
  constructor
  · rintro ⟨bytes, hread, hdecode⟩
    split at hdecode
    · contradiction
    next decoded hdecoded =>
      cases hdecode
      rw [hread, Text.encode_of_decode? hdecoded]
  · intro hread
    exact ⟨_, hread, by simp⟩

theorem Denotes.read_eq {text : Text} (h : tree.Denotes path location)
    (hfound : tree.find? location = some (.file (Text.encode text))) :
    tree.read path = .ok text :=
  read_eq_ok_iff.2 (readBytes_eq_ok_iff.2 ⟨location, h, hfound⟩)

/-- Bytes are written to the file that the path means, and nothing else changes. -/
theorem writeBytes_eq_ok_iff :
    tree.writeBytes path bytes = .ok after ↔
      ∃ location, tree.Denotes path location ∧ after = tree.set location (.file bytes) := by
  rw [writeBytes, except_bind_eq_ok_iff]
  refine exists_congr fun location => ?_
  constructor
  · rintro ⟨hresolve, hwrite⟩
    split at hwrite
    · contradiction
    next hslash =>
      split at hwrite
      · contradiction
      next hfile =>
        cases hwrite
        exact ⟨⟨hresolve, hslash, hfile⟩, rfl⟩
  · rintro ⟨⟨hresolve, hslash, hfile⟩, rfl⟩
    refine ⟨hresolve, ?_⟩
    rw [if_neg hslash]
    split
    · contradiction
    · rfl

theorem set_eq_self {entry : Entry} (h : tree.find? location = some entry) :
    tree.set location entry = tree := by
  ext1
  case hhere => rfl
  case hentry other =>
    rw [find?_set]
    split
    next heq => rw [← heq, h]
    · rfl

/-! ## Directories -/

/-- Two trees have the same directories and the same working directory. -/
structure SameDirectories (tree after : FileTree) : Prop where
  here : after.here = tree.here
  directory : ∀ location,
    after.find? location = some .directory ↔ tree.find? location = some .directory

namespace SameDirectories

theorem refl (tree : FileTree) : SameDirectories tree tree :=
  ⟨rfl, fun _ => .rfl⟩

theorem trans (h : SameDirectories tree after) (hother : SameDirectories after other) :
    SameDirectories tree other :=
  ⟨hother.here.trans h.here,
    fun location => (hother.directory location).trans (h.directory location)⟩

theorem set_file (h : tree.find? location ≠ some .directory) (bytes : ByteArray) :
    SameDirectories tree (tree.set location (.file bytes)) where
  here := rfl
  directory := by
    intro place
    rw [find?_set]
    split
    next heq =>
      subst heq
      simp [h]
    · rfl

theorem walk_eq_ok_iff (h : SameDirectories tree after) :
    after.walk location names = .ok target ↔ tree.walk location names = .ok target := by
  induction names generalizing location with
  | nil => rfl
  | cons name names ih => rw [walk_cons_eq_ok_iff, walk_cons_eq_ok_iff, h.directory, ih]

theorem resolve_eq_ok_iff (h : SameDirectories tree after) :
    after.resolve path = .ok location ↔ tree.resolve path = .ok location := by
  have hstart : after.start path = tree.start path := by rw [start, start, h.here]
  rw [FileTree.resolve_eq_ok_iff, FileTree.resolve_eq_ok_iff, hstart, h.walk_eq_ok_iff]

/-- With the same directories, paths mean the same files. -/
theorem denotes_iff (h : SameDirectories tree after) :
    after.Denotes path location ↔ tree.Denotes path location := by
  constructor
  · rintro ⟨hresolve, hslash, hfile⟩
    exact ⟨h.resolve_eq_ok_iff.1 hresolve, hslash, fun hdir => hfile ((h.directory _).2 hdir)⟩
  · rintro ⟨hresolve, hslash, hfile⟩
    exact ⟨h.resolve_eq_ok_iff.2 hresolve, hslash, fun hdir => hfile ((h.directory _).1 hdir)⟩

/-- With the same directories, a path reads the same if the file that it means is the same. -/
theorem readBytes_eq_ok_iff (h : SameDirectories tree after)
    (hfile : ∀ location, tree.Denotes path location →
      after.find? location = tree.find? location) :
    after.readBytes path = .ok bytes ↔ tree.readBytes path = .ok bytes := by
  rw [FileTree.readBytes_eq_ok_iff, FileTree.readBytes_eq_ok_iff]
  refine exists_congr fun location => ?_
  rw [h.denotes_iff]
  exact and_congr_right fun hlocation => by rw [hfile location hlocation]

end SameDirectories

end FileTree

/-! ## Names in a directory -/

/-- A name in a directory leads to that name behind the place of the directory, however the
directory is written. -/
theorem FileTree.locate_join (tree : FileTree) (directory : Text) {name : Text}
    (hne : name ≠ []) (hslash : '/' ∉ name) :
    tree.locate (Path.join directory name) = (tree.locate directory).follow name := by
  have hstart : tree.start (Path.join directory name) = tree.start directory := by
    rw [start, start, Path.isAbsolute_join directory hslash]
  rw [locate, locate, hstart, Path.names_join directory hne hslash, List.foldl_append]
  rfl

end SitePress
