import SitePress.Command.Log

/-!
# The command and its libraries

Three things are left to libraries: to make sense of the arguments, to make a filter out of the
log setting, and to write events and errors down.  The command says in which order they are
asked and what follows from their answers.  They can stop it as well: a setting or an argument
can be such that reading it panics, and arguments that ask for help are answered without it.
-/

namespace SitePress

/-! ## What the system hands over -/

/-- An argument or the value of a variable.  It need not be UTF-8; then it is no text, and
there is only a text that it is shown as. -/
inductive OsText
  | text (t : Text)
  | stray (shown : Text)
  deriving DecidableEq, Repr

namespace OsText

def shown : OsText → Text
  | .text t => t
  | .stray shown => shown

def prepend (front : Text) : OsText → OsText
  | .text t => .text (front ++ t)
  | .stray shown => .stray (front ++ shown)

end OsText

/-! ## Answers of libraries -/

/-- Why a setting gives no filter. -/
inductive SettingError
  | refused
  | panicked (message : Text)
  deriving DecidableEq, Repr

/-- What comes of arguments. -/
inductive Parsed
  /-- The command has been answered for: with help, the version, or what is wrong. -/
  | exited (exitCode : Nat) (stdout stderr : Text)
  /-- The command goes on with a directory, if one is given or there is a default. -/
  | matched (directory : Option OsText)
  deriving DecidableEq, Repr

/-- What the command takes from libraries. -/
structure Libraries where
  parse : List OsText → Parsed
  /-- The value of an option as text, or the message of a panic. -/
  valueOf : OsText → Except Text Text
  /-- The filter that the log setting asks for, if there is one. -/
  readSetting : Option OsText → Except SettingError Decision
  newFilter : Text → Decision
  line : Event → Text
  /-- An error in words, from its message and those of its two causes. -/
  report : Text → Text → Text → Text

/-! ## Running -/

/-- How the command ends. -/
structure Finish where
  exitCode : Nat
  stdout : Text
  stderr : Text
  tree : FileTree

def Finish.panicked (message : Text) (tree : FileTree) : Finish :=
  { exitCode := 101, stdout := [], stderr := message, tree }

def Libraries.errorText (libraries : Libraries) (error : BuildError) : Text :=
  "Error: ".toList ++
    libraries.report error.message error.cause.message error.cause.causeMessage ++ ['\n']

/-- The end of a build: the log, and a report if the build failed. -/
def Libraries.finish (libraries : Libraries) (decision : Decision) (built : Build) : Finish :=
  let log := logLines decision libraries.line built.events
  match built.outcome with
  | .ok () => { exitCode := 0, stdout := [], stderr := log, tree := built.tree }
  | .error error =>
    { exitCode := 1, stdout := [], stderr := log ++ libraries.errorText error,
      tree := built.tree }

/-- The filter in force: that of the setting, or one for warnings if this is refused. -/
def Libraries.decision (libraries : Libraries) (setting : Option OsText) : Except Text Decision :=
  match libraries.readSetting setting with
  | .ok decision => .ok decision
  | .error .refused => .ok (libraries.newFilter "warn".toList)
  | .error (.panicked message) => .error message

/-- Runs the command: its arguments, the setting of its log, and the files it finds. -/
def Libraries.run (libraries : Libraries) (arguments : List OsText) (setting : Option OsText)
    (tree : FileTree) : Finish :=
  match libraries.decision setting with
  | .error message => .panicked message tree
  | .ok decision =>
    match libraries.parse arguments with
    | .exited exitCode stdout stderr => { exitCode, stdout, stderr, tree }
    | .matched directory =>
      match directory.mapM libraries.valueOf with
      | .error message => .panicked message tree
      | .ok directory =>
        let site := Site.standard (directory.getD Site.standardDirectory)
        libraries.finish decision (site.build tree)

end SitePress
