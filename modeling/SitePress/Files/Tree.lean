import SitePress.Files.Error
import SitePress.Files.Path
import Std.Data.ExtTreeMap

/-!
# File trees

A file tree maps locations to files and directories; it holds no links, so a
location has one path of names from the root.  Paths are followed name by name from
the root or from the working directory, and each name is looked up in a directory
that is there.

## Main definitions

* `Location` — a place in a tree, the deepest name first.
* `FileTree` — the entries of a tree and its working directory.
* `FileTree.locate` — the location that a path means.
* `FileTree.resolve` — the location that a path leads to, or why it cannot be followed.
* `FileTree.read`, `FileTree.write` — the text of a file.
-/

namespace SitePress

/-- A place in a tree: the names from the root, the deepest first; the root is `[]`. -/
abbrev Location := List Text

/-- The location that a name leads to: a single dot stays, a double dot goes up, as far
as the root, and any other name goes down. -/
def Location.follow (location : Location) (name : Text) : Location :=
  if name = ['.'] then location
  else if name = ['.', '.'] then location.tail
  else name :: location

/-- Locations are ordered name by name, the deepest first. -/
instance : Std.TransOrd Location :=
  inferInstanceAs (Std.TransOrd (List (List Char)))

/-- Only equal locations stand at the same place of the order. -/
instance : Std.LawfulEqOrd Location :=
  inferInstanceAs (Std.LawfulEqOrd (List (List Char)))

/-- What stands at a location. -/
inductive Entry
  | file (bytes : ByteArray)
  | directory

/-- A tree of files and directories. -/
structure FileTree where
  entries : Std.ExtTreeMap Location Entry
  /-- The working directory, from which relative paths start. -/
  here : Location

namespace FileTree

/-! ## Entries -/

def find? (tree : FileTree) (location : Location) : Option Entry :=
  tree.entries[location]?

/-- The tree with an entry put at a location, in place of what was there. -/
def set (tree : FileTree) (location : Location) (entry : Entry) : FileTree :=
  { tree with entries := tree.entries.insert location entry }

@[simp] theorem here_set (tree : FileTree) (location : Location) (entry : Entry) :
    (tree.set location entry).here = tree.here := rfl

theorem find?_set (tree : FileTree) (location other : Location) (entry : Entry) :
    (tree.set location entry).find? other =
      if location = other then some entry else tree.find? other := by
  simp [find?, set, Std.ExtTreeMap.getElem?_insert]

@[simp] theorem find?_set_self (tree : FileTree) (location : Location) (entry : Entry) :
    (tree.set location entry).find? location = some entry := by
  simp [find?_set]

@[ext] theorem ext {tree other : FileTree} (hhere : tree.here = other.here)
    (hentry : ∀ location, tree.find? location = other.find? location) : tree = other := by
  cases tree; cases other
  obtain rfl := hhere
  obtain rfl := Std.ExtTreeMap.ext_getElem? hentry
  rfl

/-! ## Following paths -/

/-- The number of bytes that a name may have. -/
def nameLimit : Nat := 255

/-- The number of bytes that a whole path stays below. -/
def pathLimit : Nat := 4096

/-- Follows names from a location.  Each name needs a directory to be looked up in;
the last one need not exist. -/
def walk (tree : FileTree) (location : Location) : List Text → Except FileError Location
  | [] => .ok location
  | name :: names =>
    match tree.find? location with
    | none => .error .notFound
    | some (.file _) => .error .notADirectory
    | some .directory =>
      if nameLimit < Text.utf8Size name then .error .nameTooLong
      else tree.walk (location.follow name) names

def start (tree : FileTree) (path : Text) : Location :=
  if Path.isAbsolute path then [] else tree.here

/-- The location that a path means, whether or not it can be followed. -/
def locate (tree : FileTree) (path : Text) : Location :=
  (Path.names path).foldl Location.follow (tree.start path)

/-- The location that a path leads to, which need not exist itself. -/
def resolve (tree : FileTree) (path : Text) : Except FileError Location :=
  if '\x00' ∈ path then .error .nulInPath
  else if path = [] then .error .notFound
  else if pathLimit ≤ Text.utf8Size path then .error .nameTooLong
  else tree.walk (tree.start path) (Path.names path)

/-- Names that can be followed lead where they mean. -/
theorem eq_foldl_of_walk {tree : FileTree} {location target : Location} {names : List Text}
    (h : tree.walk location names = .ok target) :
    target = names.foldl Location.follow location := by
  induction names generalizing location with
  | nil => cases h; rfl
  | cons name names ih =>
    unfold walk at h
    split at h
    · contradiction
    · contradiction
    · split at h
      · contradiction
      · exact ih h

/-- A path that can be followed leads to the location that it means. -/
theorem eq_locate_of_resolve {tree : FileTree} {path : Text} {location : Location}
    (h : tree.resolve path = .ok location) : location = tree.locate path := by
  unfold resolve at h
  split at h
  · contradiction
  split at h
  · contradiction
  split at h
  · contradiction
  · exact eq_foldl_of_walk h

/-! ## Reading and writing -/

/-- The bytes of a file. -/
def readBytes (tree : FileTree) (path : Text) : Except FileError ByteArray := do
  match tree.find? (← tree.resolve path) with
  | none => .error .notFound
  | some .directory => .error .isADirectory
  | some (.file bytes) => if Path.endsInSlash path then .error .notADirectory else .ok bytes

def read (tree : FileTree) (path : Text) : Except FileError Text := do
  match Text.decode? (← tree.readBytes path) with
  | none => .error .notUtf8
  | some text => .ok text

/-- The tree with a file's bytes replaced; the file is made if its directory is there. -/
def writeBytes (tree : FileTree) (path : Text) (bytes : ByteArray) :
    Except FileError FileTree := do
  let location ← tree.resolve path
  if Path.endsInSlash path then .error .isADirectory
  else
    match tree.find? location with
    | some .directory => .error .isADirectory
    | _ => .ok (tree.set location (.file bytes))

def write (tree : FileTree) (path text : Text) : Except FileError FileTree :=
  tree.writeBytes path (Text.encode text)

end FileTree

end SitePress
