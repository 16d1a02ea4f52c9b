import SitePress.Command.Run
import SitePress.Files.Arrange
import Std.Time.Format

/-!
# The program

Finds on the disk the files that a build will look at, runs the command on them, and
puts on the disk what the command wrote.  All that is decided is decided in `run`.
-/

namespace SitePress.Disk

/-! ## Finding files -/

def workplace : IO FileTree := do
  let here ← IO.currentDir
  return .blank (Path.names here.toString.toList).reverse

/-- Adds to a tree what the disk holds along a path, where `before` has been followed
already: the directories, and the file at the end. -/
def surveyAlong (tree : FileTree) (before : Text) (location : Location) :
    List Text → IO FileTree
  | [] => return tree
  | name :: names => do
    let path := before ++ name
    let onDisk := (← IO.currentDir) / String.ofList path
    let location := location.follow name
    if ← onDisk.isDir then
      surveyAlong (tree.set location .directory) (path ++ ['/']) location names
    else if ← onDisk.pathExists then
      let bytes ← IO.FS.readBinFile onDisk
      return tree.set location (.file bytes)
    else return tree

/-- Adds to a tree what the disk holds along a path. -/
def survey (tree : FileTree) (path : Text) : IO FileTree :=
  if '\x00' ∈ path then return tree
  else
    surveyAlong tree (if Path.isAbsolute path then ['/'] else []) (tree.start path)
      (Path.names path)

/-! ## Saving files -/

/-- Puts the file at a path on the disk if it is not what it was. -/
def save (before after : FileTree) (path : Text) : IO Unit := do
  match after.readBytes path with
  | .error _ => return
  | .ok bytes =>
    if (before.readBytes path).toOption != some bytes then
      IO.FS.writeBinFile ((← IO.currentDir) / String.ofList path) bytes

/-! ## Time -/

def clock : IO Text := do
  let now := Std.Time.DateTime.ofTimestampWithZone (← Std.Time.Timestamp.now) .UTC
  return (now.format "uuuu-MM-dd'T'HH:mm:ss.SSSSSS'Z'").toList

end SitePress.Disk

open SitePress in
/-- The program: its exit code is that of the command. -/
def main (arguments : List String) : IO UInt32 := do
  let arguments := arguments.map String.toList
  let logSetting := (← IO.getEnv "RUST_LOG").map String.toList
  let site? := match Request.ofArguments arguments with
    | .ok (.build directory) => some (requestedSite directory)
    | _ => none
  let before ← match site? with
    | none => Disk.workplace
    | some site => (site.inputPaths ++ site.outputPaths).foldlM Disk.survey (← Disk.workplace)
  let finish := run arguments logSetting (← Disk.clock) before
  for path in site?.elim [] Site.outputPaths do
    Disk.save before finish.tree path
  IO.print (String.ofList finish.stdout)
  IO.eprint (String.ofList finish.stderr)
  return UInt32.ofNat finish.exitCode
