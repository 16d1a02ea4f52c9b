import SitePress.Text.Basic

/-!
# File errors

What can go wrong when a file is read or written, other than by permissions or devices.
-/

namespace SitePress

/-- Why a file cannot be read or written. -/
inductive FileError
  /-- A name on the way does not exist. -/
  | notFound
  /-- A name on the way is a file. -/
  | notADirectory
  /-- The path leads to a directory. -/
  | isADirectory
  /-- A name or the whole path is too long. -/
  | nameTooLong
  /-- The path holds a NUL character. -/
  | nulInPath
  /-- The bytes of the file are not UTF-8. -/
  | notUtf8
  deriving DecidableEq, Repr

/-- A file error in words; errors of the file system carry its number for them. -/
def FileError.message : FileError → Text
  | .notFound => "No such file or directory (os error 2)".toList
  | .notADirectory => "Not a directory (os error 20)".toList
  | .isADirectory => "Is a directory (os error 21)".toList
  | .nameTooLong => "File name too long (os error 36)".toList
  | .nulInPath => "file name contained an unexpected NUL byte".toList
  | .notUtf8 => "stream did not contain valid UTF-8".toList

end SitePress
