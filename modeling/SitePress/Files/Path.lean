import SitePress.Text.Basic

/-!
# Paths

A path is text.  It is read as names between slashes; a slash in front makes it
absolute, a slash at its end asks for a directory, and slashes in a row count as one.
Joining works on the text alone and never shortens it.
-/

namespace SitePress.Path

def isAbsolute (path : Text) : Bool :=
  path.head? == some '/'

def endsInSlash (path : Text) : Bool :=
  path.getLast? == some '/'

/-- A path seen from a directory.  An absolute path stays what it is, and no slash is
put behind an empty directory or one that ends in a slash. -/
def join (directory path : Text) : Text :=
  if isAbsolute path || directory.isEmpty then path
  else if endsInSlash directory then directory ++ path
  else directory ++ '/' :: path

/-- The names that a path goes through, in order. -/
def names (path : Text) : List Text :=
  (path.splitOn '/').filter fun name => !name.isEmpty

/-! ## Names of joined paths -/

@[simp] theorem names_nil : names [] = [] := rfl

/-- A slash separates the names in front of it from those behind it. -/
@[simp] theorem names_append_slash (front behind : Text) :
    names (front ++ '/' :: behind) = names front ++ names behind := by
  simp [names, List.splitOn_append_cons_self]

theorem names_eq_singleton {name : Text} (hne : name ≠ []) (hslash : '/' ∉ name) :
    names name = [name] := by
  simp [names, List.splitOn_eq_singleton hslash, hne]

end SitePress.Path
