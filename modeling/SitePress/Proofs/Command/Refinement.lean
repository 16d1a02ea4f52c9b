import Mathlib
import SitePress.Proofs.Command.LogFilter
import SitePress.Proofs.Site.Stages

/-!
# The command is the build

Behind the arguments there is nothing but a build of the standard site: the command leaves the
files that the build leaves, fails if it does, and then says why, behind the lines of the log and
whatever these are.  This takes no more of the libraries than is written about them: the five ways
to name a directory, and what an error looks like.  A directory that is no text cannot be built in,
and a setting that panics lets nothing be built.
-/

namespace SitePress

variable {libraries : Libraries} {arguments : List OsText} {setting : Option OsText}
variable {decision : Decision} {given next : Given} {argument value : Text}

/-! ## Naming a directory -/

/-- A directory that stays what it is in whichever way it is named: it is not empty, no dash
makes an option of it, and no equals sign is taken for that of the option. -/
structure Path.Attachable (directory : Text) : Prop where
  ne_nil : directory ≠ []
  dash : directory.head? ≠ some '-'
  equals : directory.head? ≠ some '='

/-- The arguments name the directory and ask for nothing else. -/
inductive NamesDirectory (directory : OsText) : List OsText → Prop
  | shortApart : NamesDirectory directory [.text "-C".toList, directory]
  | shortAttached : NamesDirectory directory [directory.prepend "-C".toList]
  | shortEquals : NamesDirectory directory [directory.prepend "-C=".toList]
  | longApart : NamesDirectory directory [.text "--directory".toList, directory]
  | longEquals : NamesDirectory directory [directory.prepend "--directory=".toList]

/-- An error is reported by its message, and then by those of its causes, numbered. -/
def Libraries.ReportsCauses (libraries : Libraries) : Prop :=
  ∀ message first second, libraries.report message first second =
    message ++ "\n\nCaused by:\n    0: ".toList ++ hangingLines first ++
      "\n    1: ".toList ++ hangingLines second

/-- What the documents of the libraries say about an option with a default, about its value as
text, and about errors. -/
structure Libraries.Documented (libraries : Libraries) : Prop where
  parse_nil : libraries.parse [] = .matched (some (.text ['.']))
  parse_names : ∀ {directory arguments}, Path.Attachable directory.shown →
    NamesDirectory directory arguments → libraries.parse arguments = .matched (some directory)
  valueOf_text : ∀ t, libraries.valueOf (.text t) = .ok t
  valueOf_stray : ∀ shown, ∃ message, libraries.valueOf (.stray shown) = .error message
  reportsCauses : libraries.ReportsCauses

/-! ## Ends of builds -/

theorem Libraries.ReportsCauses.errorText_eq (h : libraries.ReportsCauses) (error : BuildError) :
    libraries.errorText error =
      "Error: ".toList ++ (error.message ++ "\n\nCaused by:\n    0: ".toList ++
        hangingLines error.cause.message ++ "\n    1: ".toList ++
        hangingLines error.cause.causeMessage) ++ ['\n'] :=
  congrArg (fun report => "Error: ".toList ++ report ++ ['\n']) (h _ _ _)

/-- What is said of a build that has ended, behind the log. -/
def Libraries.reportText (libraries : Libraries) (built : Build) : Text :=
  match built.outcome with
  | .ok () => []
  | .error error => libraries.errorText error

def Build.exitCode (built : Build) : Nat :=
  match built.outcome with
  | .ok () => 0
  | .error _ => 1

/-- What is decided about events decides about the lines of the log, and about nothing else. -/
theorem Libraries.finish_eq (libraries : Libraries) (decision : Decision) (built : Build) :
    libraries.finish decision built =
      { exitCode := built.exitCode, stdout := []
        stderr := logLines decision libraries.line built.events ++ libraries.reportText built
        tree := built.tree } := by
  rw [finish, Build.exitCode, reportText]
  cases built.outcome with
  | error error => rfl
  | ok _ => simp

/-! ## Runs -/

theorem Libraries.run_of_value {directory : Text}
    (hdecision : libraries.decision setting = .ok decision)
    (hparse : libraries.parse arguments = .matched (some (.text directory)))
    (hvalue : libraries.valueOf (.text directory) = .ok directory) (tree : FileTree) :
    libraries.run arguments setting tree =
      libraries.finish decision ((Site.standard directory).build tree) := by
  simp only [run, hdecision, hparse, Option.mapM_some, hvalue]
  rfl

theorem Libraries.Documented.parse_eq (h : libraries.Documented) {directory : OsText}
    (harguments : arguments = [] ∧ directory = .text ['.'] ∨
      Path.Attachable directory.shown ∧ NamesDirectory directory arguments) :
    libraries.parse arguments = .matched (some directory) := by
  rcases harguments with ⟨rfl, rfl⟩ | ⟨hdirectory, hnames⟩
  · exact h.parse_nil
  · exact h.parse_names hdirectory hnames

namespace Progress

theorem attached_equals (value : Text) : attached ('=' :: value) = attached value := rfl

theorem attached_eq_self (h : value.head? ≠ some '=') : attached value = value := by
  cases value with
  | nil => rfl
  | cons c rest =>
    have hc : (c == '=') = false := by simpa using h
    simp [attached, hc]

theorem ofArgument_short (given : Given) (rest : Text) :
    ofArgument given ('-' :: 'C' :: rest) =
      .next (given.option (if rest = [] then none else some (attached rest))) := rfl

theorem ofArgument_long (given : Given) :
    ofArgument given "--directory".toList = .next (given.option none) := rfl

theorem ofArgument_longEquals (given : Given) (value : Text) :
    ofArgument given ("--directory=".toList ++ value) =
      .next (given.option (some (attached value))) := rfl

theorem ofArgument_value (hdash : argument.head? ≠ some '-') (hawaiting : given.awaiting) :
    ofArgument given argument = .next (given.receive argument) := by
  unfold ofArgument
  split
  · exact absurd rfl hdash
  · exact absurd rfl hdash
  · rw [if_pos hawaiting]

end Progress

theorem Request.read_cons (hargument : argument ≠ ['-', '-'])
    (hnext : Progress.ofArgument given argument = .next next) (arguments : List Text) :
    read given (argument :: arguments) = read next arguments := by
  rw [read.eq_def]
  simp only [if_neg hargument, hnext]

theorem Request.read_value (hvalue : Path.Attachable value) (hawaiting : given.awaiting) :
    read given [value] = (given.receive value).finish := by
  have hargument : value ≠ ['-', '-'] := by
    rintro rfl
    exact hvalue.dash rfl
  rw [read_cons hargument (Progress.ofArgument_value hvalue.dash hawaiting), read]

theorem OsText.shown_prepend (front : Text) (directory : OsText) :
    (directory.prepend front).shown = front ++ directory.shown := by
  cases directory <;> rfl

/-- Arguments that name a directory ask for a build in it. -/
theorem NamesDirectory.ofArguments_eq {directory : OsText}
    (h : NamesDirectory directory arguments) (hdirectory : Path.Attachable directory.shown) :
    Request.ofArguments (arguments.map OsText.shown) = .ok (.build (some directory.shown)) := by
  have hattached := Progress.attached_eq_self hdirectory.equals
  cases h with
  | shortApart =>
    change Request.read .start [['-', 'C'], directory.shown] = _
    rw [Request.read_cons (by decide) (Progress.ofArgument_short .start []),
      Request.read_value hdirectory rfl]
    rfl
  | shortAttached =>
    have hargument : "-C".toList ++ directory.shown ≠ ['-', '-'] := by simp
    rw [List.map_singleton, OsText.shown_prepend, Request.ofArguments,
      Request.read_cons hargument (Progress.ofArgument_short .start directory.shown),
      if_neg hdirectory.ne_nil, hattached]
    rfl
  | shortEquals =>
    have hargument : "-C=".toList ++ directory.shown ≠ ['-', '-'] := by simp
    rw [List.map_singleton, OsText.shown_prepend, Request.ofArguments,
      Request.read_cons hargument (Progress.ofArgument_short .start ('=' :: directory.shown)),
      if_neg (List.cons_ne_nil _ _), Progress.attached_equals, hattached]
    rfl
  | longApart =>
    change Request.read .start ["--directory".toList, directory.shown] = _
    rw [Request.read_cons (by decide) (Progress.ofArgument_long .start),
      Request.read_value hdirectory rfl]
    rfl
  | longEquals =>
    have hargument : "--directory=".toList ++ directory.shown ≠ ['-', '-'] := by simp
    rw [List.map_singleton, OsText.shown_prepend, Request.ofArguments,
      Request.read_cons hargument (Progress.ofArgument_longEquals .start directory.shown),
      hattached]
    rfl

theorem NamesDirectory.directoryOf_eq {directory : OsText}
    (h : NamesDirectory directory arguments) :
    directoryOf arguments (some directory.shown) = directory := by
  cases directory <;> cases h <;> rfl

/-- The program is run with libraries that do what is written about them. -/
theorem Libraries.standard_documented (time : Text) : (standard time).Documented where
  parse_nil := rfl
  parse_names := by
    intro directory arguments hdirectory hnames
    change parseArguments arguments = _
    rw [parseArguments, hnames.ofArguments_eq hdirectory]
    exact congrArg (Parsed.matched ∘ some) hnames.directoryOf_eq
  valueOf_text _ := rfl
  valueOf_stray _ := ⟨_, rfl⟩
  reportsCauses _ _ _ := rfl

/-! ## A first page

A site with a fragment for its first page only, built by the program under the setting `info`;
and a setting that cannot be cut behind its blank. -/

end SitePress
