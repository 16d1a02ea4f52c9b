import SitePress.Text.Literal
import SitePress.Text.Numeral

/-!
# Template errors

A template fails either as a text, at the first marker that is not well formed, or
when it is filled, at the first placeholder without a value.  The former names the
place, the latter the key, and each message names all that tells its error from
every other.
-/

namespace SitePress

/-- What is wrong with a marker. -/
inductive Fault
  /-- The text ends before the conversion letter. -/
  | incompleteFormat
  /-- The parenthesis in front of the key is never closed. -/
  | incompleteKey
  /-- A character stands where the conversion letter should. -/
  | unsupportedConversion (found : Char)
  /-- The percent sign is followed by neither a key nor a second percent sign. -/
  | requiresMapping
  /-- The width or the precision is above `Numeral.limit`. -/
  | tooBig
  deriving DecidableEq, Repr

/-- A marker that is not well formed. -/
structure SyntaxError where
  /-- The number of bytes in front of the marker. -/
  offset : Nat
  fault : Fault
  deriving DecidableEq, Repr

structure MissingKey where
  key : Text
  deriving DecidableEq, Repr

/-- Why a template cannot be expanded. -/
inductive TemplateError
  | malformed (error : SyntaxError)
  | missing (error : MissingKey)
  deriving DecidableEq, Repr

/-! ## Messages -/

def Fault.describe : Fault → Text
  | .incompleteFormat => "incomplete format".toList
  | .incompleteKey => "incomplete format key".toList
  | .unsupportedConversion found =>
    "unsupported format character ".toList ++ Literal.ofChar found
  | .requiresMapping => "format requires a mapping".toList
  | .tooBig => "width or precision too big".toList

def SyntaxError.message (error : SyntaxError) : Text :=
  error.fault.describe ++ " at byte ".toList ++ Numeral.ofNat error.offset

/-- The key without a value, between backquotes. -/
def MissingKey.message (error : MissingKey) : Text :=
  "no value for placeholder `".toList ++ error.key ++ ['`']

def TemplateError.message : TemplateError → Text
  | .malformed error => error.message
  | .missing error => error.message

end SitePress
