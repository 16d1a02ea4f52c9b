import SitePress.Files.Tree

/-!
# Arranging trees

Trees are set up, changed and listed by path: directories are made with all that
lead to them, files are put where their directories may be missing, and whatever
stands at a location is removed with all below it.

## Main definitions

* `FileTree.blank` — a tree with nothing but its working directory.
* `FileTree.makeDirectories`, `FileTree.put`, `FileTree.remove?` — changes by path.
* `FileTree.listing` — what is below the working directory.
-/

namespace SitePress.FileTree

/-! ## Making -/

/-- The tree that holds only the working directory and the directories around it. -/
def blank (here : Location) : FileTree :=
  { entries := .ofList ((List.range (here.length + 1)).map fun n => (here.drop n, Entry.directory))
    here }

/-- The tree of a directory `d` with files in it. -/
def folder (files : List (Text × Text)) : FileTree :=
  files.foldl (fun tree (name, text) => tree.set [name, "d".toList] (.file (Text.encode text)))
    ((blank []).set ["d".toList] .directory)

/-- The tree with a directory at a location, unless a file stands there. -/
def makeDirectory (tree : FileTree) (location : Location) : Except FileError FileTree :=
  match tree.find? location with
  | none => .ok (tree.set location .directory)
  | some .directory => .ok tree
  | some (.file _) => .error .notADirectory

/-- Makes the directories that names lead to from a location, as far as they are missing. -/
def makeAlong (tree : FileTree) (location : Location) : List Text → Except FileError FileTree
  | [] => tree.makeDirectory location
  | name :: names => do
    let tree ← tree.makeDirectory location
    if nameLimit < Text.utf8Size name then .error .nameTooLong
    else tree.makeAlong (location.follow name) names

/-- The tree with the directory of a path and all directories that lead to it. -/
def makeDirectories (tree : FileTree) (path : Text) : Except FileError FileTree :=
  tree.makeAlong (tree.start path) (Path.names path)

/-- The tree with a file put at a path, whose directories are made if they are missing. -/
def put (tree : FileTree) (path : Text) (bytes : ByteArray) : Except FileError FileTree := do
  let tree ← tree.makeAlong (tree.start path) (Path.names path).dropLast
  tree.writeBytes path bytes

/-! ## Removing -/

/-- The tree without what stands at a location and all below it. -/
def without (tree : FileTree) (location : Location) : FileTree :=
  { tree with entries := tree.entries.filter fun other _ => !location.isSuffixOf other }

/-- The tree without what stands at a path and all below it; `none` when nothing stands
there, and also for a file if the path asks for a directory. -/
def remove? (tree : FileTree) (path : Text) : Option FileTree := do
  let location ← (tree.resolve path).toOption
  match tree.find? location with
  | none => none
  | some (.file _) => if Path.endsInSlash path then none else some (tree.without location)
  | some .directory => some (tree.without location)

/-! ## Listing -/

/-- The path from the location `base` to a location below it. -/
def pathBelow? (base location : Location) : Option Text :=
  if base.isSuffixOf location && base != location then
    some (['/'].intercalate (location.take (location.length - base.length)).reverse)
  else none

/-- Every entry below the working directory, with its path from there. -/
def listing (tree : FileTree) : List (Text × Entry) :=
  tree.entries.toList.filterMap fun (location, entry) =>
    (pathBelow? tree.here location).map fun path => (path, entry)

end SitePress.FileTree
