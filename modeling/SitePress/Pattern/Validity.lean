import SitePress.Pattern.Bracket

/-!
# Validity of patterns

A pattern is a sequence of parts: characters, sets, places, and groups in parentheses.
A sign behind a part repeats it, and a bar separates alternatives.  A group may have a
name, which only one group can have, or flags that switch its mode; flags alone switch
the mode of the rest of the group they are in.  A pattern is valid if all of it can be
read and if it is not nested deeper than `depthLimit`.
-/

namespace SitePress.Pattern

/-! ## Groups -/

/-- One part of a pattern. -/
structure Part where
  depth : Nat
  /-- Whether it can be repeated, which flags cannot. -/
  repeatable : Bool
  deriving DecidableEq, Repr

/-- An opened group, as far as it is read; the pattern as a whole is one too. -/
structure Group where
  mode : Mode
  /-- The parts of the current alternative, the last one first. -/
  parts : List Part
  alternatives : List Nat
  deriving DecidableEq, Repr

namespace Group

def start (mode : Mode) : Group :=
  { mode, parts := [], alternatives := [] }

def allAlternatives (group : Group) : List Nat :=
  together (group.parts.map Part.depth) :: group.alternatives

/-- The depth of what has been read. -/
def depth (group : Group) : Nat :=
  together group.allAlternatives

def add (group : Group) (part : Part) : Group :=
  { group with parts := part :: group.parts }

/-- The group with a bar behind its parts. -/
def branch (group : Group) : Group :=
  { group with parts := [], alternatives := group.allAlternatives }

/-- The group with its last part repeated. -/
def repeated? (group : Group) : Option Group :=
  match group.parts with
  | [] => none
  | part :: parts =>
    if part.repeatable then
      some { group with parts := { part with depth := part.depth + 1 } :: parts }
    else none

end Group

/-! ## Flags and names -/

/-- The letters up to a colon or a closing parenthesis switch flags on, those behind a
dash off; each may stand once, and a dash not at the end.  `seen` holds the characters
before, the last one first.  Returns the mode they lead to, whether there are any, and
the text from the colon or the parenthesis on. -/
def flags? (mode : Mode) (seen : List Char) : Text → Option (Mode × Bool × Text)
  | [] => none
  | c :: rest =>
    if c = ':' ∨ c = ')' then
      if seen.head? = some '-' then none else some (mode, !seen.isEmpty, c :: rest)
    else if c ∈ seen then none
    else if c = '-' then flags? mode (c :: seen) rest
    else if Mode.isFlag c then flags? (mode.switch c ('-' ∉ seen)) (c :: seen) rest
    else none

/-- Whether a text can be the name of a group. -/
def isName : Text → Bool
  | [] => false
  | c :: rest =>
    (c == '_' || CharacterClass.isAlphabetic c) && rest.all fun c =>
      c == '_' || c == '.' || c == '[' || c == ']' || CharacterClass.isAlphanumeric c

/-- The name in front of an angle bracket, and the text behind it. -/
def name? (t : Text) : Option (Text × Text) :=
  let name := t.takeWhile (· != '>')
  match t.dropWhile (· != '>') with
  | '>' :: rest => if isName name then some (name, rest) else none
  | _ => none

/-! ## Single parts -/

/-- Whether a mode admits what an escape stands for. -/
def Escape.isAdmitted (mode : Mode) : Escape → Bool
  | .character c isByte => mode.admits c isByte
  | .kind negated => mode.admitsKind negated
  | .edge => true
  | .wordEdge => mode.admitsWordEdge

/-- The depth of the part at the head of a text of which `c` is the first character, if
it is neither group nor sign, and the text behind the part.  A brace stands for no part:
it would count repetitions, and is never closed. -/
def single? (mode : Mode) (c : Char) (rest : Text) : Option (Nat × Text) :=
  if c = '[' then Bracket.read? mode rest
  else if c = '\\' then do
    let (escape, rest) ← Escape.read? mode rest
    if escape.isAdmitted mode then some (0, rest) else none
  else if c = '.' then if mode.admitsComplement then some (0, rest) else none
  else if c = '^' ∨ c = '$' then some (0, rest)
  else if c = '\x7b' then none
  else if mode.admits c false then some (0, rest)
  else none

/-! ## Reading -/

/-- A pattern, as far as it is read. -/
structure Reading where
  group : Group
  outer : List Group
  names : List Text
  deriving DecidableEq, Repr

namespace Reading

def start : Reading :=
  { group := .start .start, outer := [], names := [] }

def enter (reading : Reading) (mode : Mode) : Reading :=
  { reading with group := .start mode, outer := reading.group :: reading.outer }

/-- Closes the innermost group, which becomes a part of the one around it. -/
def leave? (reading : Reading) : Option Reading :=
  match reading.outer with
  | [] => none
  | parent :: outer =>
    some { reading with
      group := parent.add { depth := reading.group.depth + 1, repeatable := true }, outer }

/-- Opens a group with a name, which no other has. -/
def enterNamed? (reading : Reading) (t : Text) : Option (Reading × Text) := do
  let (name, rest) ← name? t
  if name ∈ reading.names then none
  else some ({ reading.enter reading.group.mode with names := name :: reading.names }, rest)

/-- Switches the mode by flags, or opens a group that they are for. -/
def switch? (reading : Reading) (t : Text) : Option (Reading × Text) := do
  match ← flags? reading.group.mode [] t with
  | (mode, _, ':' :: rest) => some (reading.enter mode, rest)
  | (mode, true, _ :: rest) =>
    let group := reading.group.add { depth := 0, repeatable := false }
    some ({ reading with group := { group with mode } }, rest)
  | _ => none

/-- Reads what stands behind an opening parenthesis. -/
def parenthesis? (reading : Reading) (t : Text) : Option (Reading × Text) :=
  match reading.group.mode.skip t with
  | '?' :: 'P' :: '<' :: rest => reading.enterNamed? rest
  | '?' :: '<' :: rest => reading.enterNamed? rest
  | '?' :: rest => reading.switch? rest
  | rest => some (reading.enter reading.group.mode, rest)

/-- Reads one sign or part of which `c` is the first character. -/
def step? (reading : Reading) (c : Char) (rest : Text) : Option (Reading × Text) :=
  if c = '(' then reading.parenthesis? rest
  else if c = ')' then reading.leave?.map fun reading => (reading, rest)
  else if c = '|' then some ({ reading with group := reading.group.branch }, rest)
  else if c = '?' ∨ c = '*' ∨ c = '+' then
    reading.group.repeated?.map fun group => ({ reading with group }, rest)
  else do
    let (depth, rest) ← single? reading.group.mode c rest
    some ({ reading with group := reading.group.add { depth, repeatable := true } }, rest)

/-- Reads on to the end of a text.  Each round reads a character, so `rounds` need not be
more than those of the text and one. -/
def readOn? : Nat → Reading → Text → Option Reading
  | 0, _, _ => none
  | rounds + 1, reading, t =>
    match reading.group.mode.skip t with
    | [] => some reading
    | c :: rest => do
      let (reading, rest) ← reading.step? c rest
      readOn? rounds reading rest

end Reading

/-! ## Validity -/

/-- The depth to which a pattern may be nested. -/
def depthLimit : Nat := 250

def isValid (t : Text) : Bool :=
  match Reading.readOn? (t.length + 1) .start t with
  | none => false
  | some reading => reading.outer.isEmpty && reading.group.depth ≤ depthLimit

end SitePress.Pattern
