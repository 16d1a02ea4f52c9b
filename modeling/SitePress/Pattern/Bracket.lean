import SitePress.Pattern.Escape

/-!
# Brackets in patterns

Brackets hold the members of a set of characters: characters, ranges of them, classes by
name, and sets in brackets of their own.  Double signs between members intersect sets and
take differences.  Of a set only the depth is kept to which it is nested, which is what a
pattern is limited by.
-/

namespace SitePress.Pattern

/-- The depth of things side by side: a single one is as deep as it is by itself, and
several are one level deeper than the deepest. -/
def together : List Nat → Nat
  | [] => 0
  | [depth] => depth
  | depths => depths.foldl Nat.max 0 + 1

/-- An opened bracket, as far as it is read. -/
structure Bracket where
  /-- The depths of the members since the last operator, the last member first. -/
  members : List Nat
  operand : Option Nat
  /-- Whether nothing but dashes has been read, which then are members. -/
  fresh : Bool
  deriving DecidableEq, Repr

namespace Bracket

def start : Bracket :=
  { members := [], operand := none, fresh := true }

/-- The depth of what has been read. -/
def contentDepth (bracket : Bracket) : Nat :=
  match bracket.operand with
  | none => together bracket.members
  | some depth => Nat.max depth (together bracket.members) + 1

def add (bracket : Bracket) (depth : Nat) : Bracket :=
  { bracket with members := depth :: bracket.members, fresh := false }

/-- The bracket with an operator behind its members. -/
def operate (bracket : Bracket) : Bracket :=
  { members := [], operand := some bracket.contentDepth, fresh := false }

/-! ## Members -/

def classNames : List Text :=
  ["alnum", "alpha", "ascii", "blank", "cntrl", "digit", "graph", "lower", "print", "punct",
    "space", "upper", "word", "xdigit"].map String.toList

/-- The class behind an opening bracket, between colons: whether its complement is meant,
and the text behind its closing bracket. -/
def named? : Text → Option (Bool × Text)
  | ':' :: t =>
    let negated := t.head? == some '^'
    let t := if negated then t.tail else t
    match t.dropWhile (· != ':') with
    | ':' :: ']' :: rest =>
      if classNames.contains (t.takeWhile (· != ':')) then some (negated, rest) else none
    | _ => none
  | _ => none

/-- What can be a member, or one end of a range. -/
inductive Member
  | character (c : Char)
  | kind (negated : Bool)
  deriving DecidableEq, Repr

/-- The member at the head of a text of which `c` is the first character. -/
def member? (mode : Mode) (c : Char) (rest : Text) : Option (Member × Text) :=
  if c = '\\' then
    match Escape.read? mode rest with
    | some (.character c _, rest) => some (.character c, rest)
    | some (.kind negated, rest) => some (.kind negated, rest)
    | _ => none
  else some (.character c, rest)

def Member.isAdmitted (mode : Mode) : Member → Bool
  | .character c => mode.admitsMember c
  | .kind negated => mode.admitsKind negated

/-- Whether a mode admits a range: it is one of characters, and does not run backwards. -/
def isRange (mode : Mode) : Member → Member → Bool
  | .character first, .character last =>
    first.toNat ≤ last.toNat && mode.admitsMember first && mode.admitsMember last
  | _, _ => false

/-- Reads a member, or a range if a dash follows that does not end the members; returns
the text behind it. -/
def skipMember? (mode : Mode) (c : Char) (rest : Text) : Option Text := do
  let (first, rest) ← member? mode c rest
  match mode.skip rest with
  | '-' :: behind =>
    if mode.peek behind = some ']' ∨ mode.peek behind = some '-' then
      if first.isAdmitted mode then some ('-' :: behind) else none
    else
      match mode.skip behind with
      | [] => none
      | c :: rest => do
        let (last, rest) ← member? mode c rest
        if isRange mode first last then some rest else none
  | rest => if first.isAdmitted mode then some rest else none

/-! ## Sets -/

/-- The text behind an opening bracket, and behind the sign for a complement. -/
def opened? (mode : Mode) (t : Text) : Option Text :=
  match mode.skip t with
  | '^' :: rest => if mode.admitsComplement then some rest else none
  | rest => some rest

/-- Whether a character, together with the next one, is an operator. -/
def isOperator (c : Char) (rest : Text) : Bool :=
  (c == '&' || c == '-' || c == '~') && rest.head? == some c

/-- Whether a character is a member where it stands: a dash in front of all other
members, or a closing bracket in front of all members. -/
def isLeading (bracket : Bracket) (c : Char) : Bool :=
  bracket.fresh && (c == '-' || c == ']' && bracket.members.isEmpty)

/-- What comes of a sign or member: the outermost set is closed, or brackets are open. -/
inductive Next
  | closed (depth : Nat)
  | inside (bracket : Bracket) (outer : List Bracket)
  deriving DecidableEq, Repr

/-- Reads one sign or member of which `c` is the first character, in a bracket inside others. -/
def step? (mode : Mode) (bracket : Bracket) (outer : List Bracket) (c : Char) (rest : Text) :
    Option (Next × Text) :=
  if bracket.isLeading c then
    if mode.admitsMember c then
      some (.inside { bracket.add 0 with fresh := c == '-' } outer, rest)
    else none
  else if c = '[' then
    match named? rest with
    | some (negated, rest) =>
      if mode.admitsNamed negated then some (.inside (bracket.add 0) outer, rest) else none
    | none => do
      some (.inside start ({ bracket with fresh := false } :: outer), ← opened? mode rest)
  else if c = ']' then
    match outer with
    | [] => some (.closed (bracket.contentDepth + 1), rest)
    | parent :: outer => some (.inside (parent.add (bracket.contentDepth + 1)) outer, rest)
  else if isOperator c rest then some (.inside bracket.operate outer, rest.tail)
  else do some (.inside (bracket.add 0) outer, ← skipMember? mode c rest)

/-- Reads on in a bracket inside others; returns the depth of the outermost set, and the
text behind it.  Each round reads a character, so `rounds` need not be more than those
of the text and one. -/
def readOn? (mode : Mode) : Nat → Bracket → List Bracket → Text → Option (Nat × Text)
  | 0, _, _, _ => none
  | rounds + 1, bracket, outer, t =>
    match mode.skip t with
    | [] => none
    | c :: rest =>
      match step? mode bracket outer c rest with
      | none => none
      | some (.closed depth, rest) => some (depth, rest)
      | some (.inside bracket outer, rest) => readOn? mode rounds bracket outer rest

/-- The depth of the set behind an opening bracket, and the text behind the set. -/
def read? (mode : Mode) (t : Text) : Option (Nat × Text) := do
  readOn? mode (t.length + 1) start [] (← opened? mode t)

end Bracket

end SitePress.Pattern
