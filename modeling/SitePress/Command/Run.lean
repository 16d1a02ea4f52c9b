import SitePress.Command.Arguments
import SitePress.Command.LogFilter

/-!
# The program

The command with the libraries that it is run with.
-/

namespace SitePress

/-! ## Texts -/

def versionText : Text := "pagestamp 0.1.0\n".toList

def helpText : Text :=
  versionText ++
  ("Stamps the site's pages out of `_template.html`\n" ++
    "\n" ++
    "USAGE:\n" ++
    "    pagestamp [OPTIONS]\n" ++
    "\n" ++
    "FLAGS:\n" ++
    "    -h, --help       Prints help information\n" ++
    "    -V, --version    Prints version information\n" ++
    "\n" ++
    "OPTIONS:\n" ++
    "    -C, --directory <DIR>    The directory holding the template and content fragments " ++
    "[default: .]\n").toList

/-- A message whose further lines are set under its first. -/
def hangingLines (message : Text) : Text :=
  message.flatMap fun c => if c = '\n' then '\n' :: List.replicate 7 ' ' else [c]

/-! ## Libraries -/

/-- The value of the directory, which is read off what is shown of the arguments.  There is one
option, so an argument that is no text can only have been its value. -/
def directoryOf (arguments : List OsText) : Option Text → OsText
  | none => .text Site.standardDirectory
  | some directory =>
    if arguments.all fun argument => argument matches .text _ then .text directory
    else .stray directory

def parseArguments (arguments : List OsText) : Parsed :=
  match Request.ofArguments (arguments.map OsText.shown) with
  | .error error => .exited 1 [] error.message
  | .ok .help => .exited 0 helpText []
  | .ok .version => .exited 0 versionText []
  | .ok (.build directory) => .matched (some (directoryOf arguments directory))

def decisionOf : Option OsText → Except SettingError Decision
  | some (.text setting) => (LogFilter.ofText setting).map LogFilter.decision
  | _ => .error .refused

/-- The libraries that the command is run with, at a time. -/
def Libraries.standard (time : Text) : Libraries where
  parse := parseArguments
  valueOf
    | .text t => .ok t
    | .stray _ => .error "unexpected invalid UTF-8 code point".toList
  readSetting := decisionOf
  newFilter t := (LogFilter.lossy t).decision
  line := Event.line time
  report message first second :=
    message ++ "\n\nCaused by:\n    0: ".toList ++ hangingLines first ++
      "\n    1: ".toList ++ hangingLines second

/-! ## Running -/

def requestedSite (directory : Option Text) : Site :=
  Site.standard (directory.getD Site.standardDirectory)

/-- Runs the command on arguments and a setting that are texts. -/
def run (arguments : List Text) (logSetting : Option Text) (time : Text) (tree : FileTree) :
    Finish :=
  (Libraries.standard time).run (arguments.map .text) (logSetting.map .text) tree

end SitePress
