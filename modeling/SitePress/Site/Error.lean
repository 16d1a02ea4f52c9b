import SitePress.Files.Error
import SitePress.Template.Error

/-!
# Site errors

Stamping a page fails at one of its four stages, and the error tells the stage, the
path that it worked on and the cause.  Building a site fails with the page that did.
Each message ends in the message of its cause.
-/

namespace SitePress

/-- Why a page is not stamped. -/
inductive PageError
  | readFragment (path : Text) (cause : FileError)
  | readTemplate (path : Text) (cause : FileError)
  | expandTemplate (path : Text) (cause : TemplateError)
  | writeOutput (path : Text) (cause : FileError)
  deriving DecidableEq, Repr

namespace PageError

/-- The path that the failing stage worked on. -/
def path : PageError → Text
  | .readFragment path _ => path
  | .readTemplate path _ => path
  | .expandTemplate path _ => path
  | .writeOutput path _ => path

/-- What the failing stage was doing. -/
def stage : PageError → Text
  | .readFragment .. => "Reading content fragment".toList
  | .readTemplate .. => "Reading template file".toList
  | .expandTemplate .. => "Rendering template".toList
  | .writeOutput .. => "Writing page".toList

def causeMessage : PageError → Text
  | .readFragment _ cause => cause.message
  | .readTemplate _ cause => cause.message
  | .expandTemplate _ cause => cause.message
  | .writeOutput _ cause => cause.message

/-- A page error in words: the stage, the path between quotes, and the cause. -/
def message (error : PageError) : Text :=
  error.stage ++ " '".toList ++ error.path ++ "': ".toList ++ error.causeMessage

def chain (error : PageError) : List Text :=
  [error.causeMessage]

end PageError

/-- The page at which a build fails, and why. -/
structure BuildError where
  page : Text
  cause : PageError
  deriving DecidableEq, Repr

namespace BuildError

/-- A build error in words: the page between backquotes, and the cause. -/
def message (error : BuildError) : Text :=
  "Building page `".toList ++ error.page ++ "`: ".toList ++ error.cause.message

def chain (error : BuildError) : List Text :=
  error.cause.message :: error.cause.chain

end BuildError

end SitePress
