import SitePress.Pattern.Validity

/-!
# Values of fields

A directive may give a field a value, which is a number or else a pattern for the text
of the field; truth values need no rule, for they are patterns too.  What is neither is
no value.
-/

namespace SitePress.FieldValue

/-- Whether a text is an exponent without its letter: digits behind one sign or none. -/
def isExponent (t : Text) : Bool :=
  let digits := if t.head? = some '+' ∨ t.head? = some '-' then t.tail else t
  !digits.isEmpty && digits.all Char.isDigit

/-- Whether a text can stand behind the digits of a number: it is empty, or an exponent. -/
def endsNumber : Text → Bool
  | [] => true
  | c :: exponent => (c == 'e' || c == 'E') && isExponent exponent

/-- Whether a text is a decimal number without sign: digits with a point in front of,
between or behind them or without one, and an exponent or none. -/
def isDecimal (t : Text) : Bool :=
  let whole := t.takeWhile Char.isDigit
  let rest := t.dropWhile Char.isDigit
  let behindPoint := if rest.head? = some '.' then rest.tail else []
  let fraction := behindPoint.takeWhile Char.isDigit
  let rest := if rest.head? = some '.' then behindPoint.dropWhile Char.isDigit else rest
  !(whole ++ fraction).isEmpty && endsNumber rest

/-- Whether a text names a value that has no digits, in any case. -/
def isNamed (t : Text) : Bool :=
  ["inf", "infinity", "nan"].contains (String.ofList (t.map Char.toLower))

/-- Whether a text is a number, with one sign or none. -/
def isNumber (t : Text) : Bool :=
  let unsigned := if t.head? = some '+' ∨ t.head? = some '-' then t.tail else t
  isDecimal unsigned || isNamed unsigned

def isReadable (t : Text) : Bool :=
  isNumber t || Pattern.isValid t

end SitePress.FieldValue
