import SitePress.Text.Basic

/-!
# Arguments

The command takes one option, the directory of the site, and the two flags that ask
for help and for the version.  Arguments are taken in order, and the first that asks
for help or the version, or that means nothing here, decides; only when none does is
the option looked at.  Its value stands in the same argument or in the next one, and if it never
comes then the option has its default.
-/

namespace SitePress

/-- What the arguments of the command ask for. -/
inductive Request
  /-- To build the standard site in a directory, or in its default directory. -/
  | build (directory : Option Text)
  | help
  | version
  deriving DecidableEq, Repr

/-- Why arguments ask for nothing. -/
inductive UsageError
  /-- An argument, as it is shown, means nothing; the directory may have been given before it. -/
  | unexpected (argument : Text) (directoryGiven : Bool)
  /-- The directory is given more than once. -/
  | repeated
  deriving DecidableEq, Repr

/-! ## Usage messages -/

namespace UsageError

def complaint : UsageError → Text
  | .unexpected argument _ =>
    "Found argument '".toList ++ argument ++
      "' which wasn't expected, or isn't valid in this context".toList
  | .repeated =>
    ("The argument '--directory <DIR>' was provided more than once, but cannot be used " ++
      "multiple times").toList

/-- The usage to show: the directory stands for itself once it has been given. -/
def usage : UsageError → Text
  | .unexpected _ false => "pagestamp [OPTIONS]".toList
  | .unexpected _ true => "pagestamp --directory <DIR>".toList
  | .repeated => "pagestamp --directory <DIR>".toList

def message (error : UsageError) : Text :=
  "error: ".toList ++ error.complaint ++ "\n\nUSAGE:\n    ".toList ++ error.usage ++
    "\n\nFor more information try --help\n".toList

end UsageError

/-! ## Reading arguments -/

/-- What the arguments read so far say about the directory. -/
structure Given where
  times : Nat
  directory : Option Text
  /-- Whether the option came last and has no value yet. -/
  awaiting : Bool
  deriving DecidableEq, Repr

namespace Given

def start : Given :=
  { times := 0, directory := none, awaiting := false }

/-- The option is given once more, its value being in the same argument or yet to come. -/
def option (given : Given) (value : Option Text) : Given :=
  { times := given.times + 1
    directory := given.directory.or value
    awaiting := value.isNone }

/-- The value that was awaited. -/
def receive (given : Given) (value : Text) : Given :=
  { given with directory := given.directory.or (some value), awaiting := false }

def unexpected (given : Given) (argument : Text) : UsageError :=
  .unexpected argument (0 < given.times)

def finish (given : Given) : Except UsageError Request :=
  if 1 < given.times then .error .repeated else .ok (.build given.directory)

end Given

/-- What one argument leads to. -/
inductive Progress
  | next (given : Given)
  | decided (result : Except UsageError Request)

namespace Progress

/-- A value behind an option in the same argument, without the equals signs in front of it. -/
def attached (value : Text) : Text :=
  value.dropWhile (· == '=')

/-- An argument with two dashes in front: a long name, and a value behind an equals sign. -/
def long (given : Given) (argument : Text) : Progress :=
  let bare := argument.dropWhile (· == '-')
  let name := bare.takeWhile (· != '=')
  if name = "directory".toList then
    match bare.dropWhile (· != '=') with
    | [] => .next (given.option none)
    | _ :: value => .next (given.option (some (attached value)))
  else if name = "help".toList then .decided (.ok .help)
  else if name = "version".toList then .decided (.ok .version)
  else .decided (.error (given.unexpected ('-' :: '-' :: name)))

/-- An argument with one dash in front: the first letter decides, and what is behind the
letter of the option is its value. -/
def short (given : Given) (letter : Char) (rest : Text) : Progress :=
  if letter = 'C' then .next (given.option (if rest = [] then none else some (attached rest)))
  else if letter = 'h' then .decided (.ok .help)
  else if letter = 'V' then .decided (.ok .version)
  else .decided (.error (given.unexpected ['-', letter]))

/-- What one argument leads to, other than the double dash. -/
def ofArgument (given : Given) (argument : Text) : Progress :=
  match argument with
  | '-' :: '-' :: _ => long given argument
  | '-' :: letter :: rest => short given letter rest
  | _ =>
    if given.awaiting then .next (given.receive argument)
    else .decided (.error (given.unexpected argument))

end Progress

namespace Request

/-- Reads arguments behind those that `given` stands for.  A double dash makes an
unexpected argument of whatever follows it. -/
def read (given : Given) : List Text → Except UsageError Request
  | [] => given.finish
  | argument :: arguments =>
    if argument = ['-', '-'] then
      match arguments with
      | [] => given.finish
      | next :: _ => .error (given.unexpected next)
    else
      match Progress.ofArgument given argument with
      | .next given => read given arguments
      | .decided result => result

/-- Reads the arguments of the command. -/
def ofArguments (arguments : List Text) : Except UsageError Request :=
  read .start arguments

end Request

end SitePress
