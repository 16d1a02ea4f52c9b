import SitePress.Proofs.Command.Refinement
import SitePress.Proofs.Template.Message

/-!
# What is read off a report

The innermost cause stands at the end of a report, behind its number.  Each further line of a
message starts with more blanks than stand in front of a number, so behind the innermost cause
nothing looks like its number, and the cause can be told whatever paths, messages and log lines
are in front of it.  No file error starts as a template error does, so what is told is also
whether the template is to blame.
-/

namespace SitePress

variable {libraries : Libraries} {message other t v : Text}

/-! ## Further lines -/

/-- What is put behind a character of a message. -/
def hangingIndent (c : Char) : Text :=
  if c = '\n' then List.replicate 7 ' ' else []

theorem hangingLines_nil : hangingLines [] = [] := rfl

theorem hangingLines_cons (c : Char) (message : Text) :
    hangingLines (c :: message) = c :: (hangingIndent c ++ hangingLines message) := by
  rw [hangingLines, List.flatMap_cons, ← hangingLines, hangingIndent]
  split
  next hc => rw [hc, List.cons_append]
  next => rfl

/-- Hanging lines tell the message. -/
theorem hangingLines_injective (h : hangingLines message = hangingLines other) :
    message = other := by
  induction message generalizing other with
  | nil =>
    cases other with
    | nil => rfl
    | cons => simp [hangingLines_nil, hangingLines_cons] at h
  | cons c message ih =>
    cases other with
    | nil => simp [hangingLines_nil, hangingLines_cons] at h
    | cons d other =>
      rw [hangingLines_cons, hangingLines_cons] at h
      obtain ⟨rfl, hrest⟩ := List.cons.inj h
      rw [ih (List.append_cancel_left hrest)]

theorem suffix_hangingIndent_append {c : Char} :
    '\n' :: v <:+ hangingIndent c ++ t ↔ '\n' :: v <:+ t := by
  unfold hangingIndent
  split <;> simp [List.replicate, List.suffix_cons_iff]

/-- Behind each line break of a message there are blanks. -/
theorem indent_prefix_of_suffix_hangingLines (h : '\n' :: v <:+ hangingLines message) :
    hangingIndent '\n' <+: v := by
  induction message with
  | nil => simp [hangingLines_nil] at h
  | cons c message ih =>
    rw [hangingLines_cons, List.suffix_cons_iff, suffix_hangingIndent_append] at h
    rcases h with h | h
    · obtain ⟨rfl, rfl⟩ := List.cons.inj h
      exact List.prefix_append _ _
    · exact ih h

/-! ## The end of a report -/

/-- How a report ends: the message of the innermost cause, behind its number. -/
def innermostLine (message : Text) : Text :=
  "\n    1: ".toList ++ hangingLines message ++ ['\n']

theorem innermostLine_eq (message : Text) :
    innermostLine message =
      '\n' :: ([' ', ' ', ' ', ' ', '1', ':', ' '] ++ hangingLines message) ++ ['\n'] :=
  rfl

theorem innermostLine_suffix_errorText (h : libraries.ReportsCauses) (error : BuildError) :
    innermostLine error.cause.causeMessage <:+ libraries.errorText error := by
  have htext := h.errorText_eq error
  generalize error.message ++ "\n\nCaused by:\n    0: ".toList ++
    hangingLines error.cause.message = front at htext
  unfold innermostLine
  generalize "Error: ".toList = head, "\n    1: ".toList = number at htext ⊢
  exact ⟨head ++ front, by simp only [htext, List.append_assoc]⟩

/-- An innermost line stands in no other. -/
theorem eq_of_innermostLine_suffix (h : innermostLine message <:+ innermostLine other) :
    message = other := by
  rw [innermostLine_eq, innermostLine_eq] at h
  obtain ⟨front, h⟩ := h
  rw [← List.append_assoc] at h
  have hfront := List.append_cancel_right h
  rcases List.suffix_cons_iff.1 ⟨front, hfront⟩ with hline | hlater
  · exact hangingLines_injective (List.append_cancel_left (List.cons.inj hline).2)
  · -- It would have to start at a line break of the other message, where there are more blanks.
    have hbreak : '\n' :: ([' ', ' ', ' ', ' ', '1', ':', ' '] ++ hangingLines message) <:+
        hangingLines other := by
      simpa [List.suffix_cons_iff] using hlater
    have hblanks := indent_prefix_of_suffix_hangingLines hbreak
    simp [hangingIndent, List.replicate] at hblanks

/-- A text ends in the innermost line of one message at most. -/
theorem innermostLine_unique (hmessage : innermostLine message <:+ t)
    (hother : innermostLine other <:+ t) : message = other := by
  rcases List.suffix_or_suffix_of_suffix hmessage hother with h | h
  · exact eq_of_innermostLine_suffix h
  · exact (eq_of_innermostLine_suffix h).symm

/-! ## Causes -/

/-- The first two characters of a file error in words. -/
def FileError.opening : FileError → Text
  | .notFound => ['N', 'o']
  | .notADirectory => ['N', 'o']
  | .isADirectory => ['I', 's']
  | .nameTooLong => ['F', 'i']
  | .nulInPath => ['f', 'i']
  | .notUtf8 => ['s', 't']

theorem FileError.take_message (error : FileError) : error.message.take 2 = error.opening := by
  cases error <;> rfl

theorem TemplateError.message_ne_file (error : TemplateError) (failure : FileError) :
    error.message ≠ failure.message := by
  intro h
  have hopening : error.message.take 2 = failure.opening := by rw [h, failure.take_message]
  cases error with
  | malformed error =>
    rw [message, error.take_message] at hopening
    cases hfault : error.fault <;> cases failure <;>
      simp [hfault, Fault.opening, FileError.opening] at hopening
  | missing error =>
    rw [message, error.take_message] at hopening
    cases failure <;> simp [FileError.opening] at hopening

namespace PageError

/-- What is wrong with the template, if that is why a page is not stamped. -/
def templateError? : PageError → Option TemplateError
  | .readFragment _ _ => none
  | .readTemplate _ _ => none
  | .expandTemplate _ cause => some cause
  | .writeOutput _ _ => none

/-- The innermost message is that of a template error only if this is the cause. -/
theorem causeMessage_eq_iff (error : PageError) (cause : TemplateError) :
    error.causeMessage = cause.message ↔ error.templateError? = some cause := by
  have hfile (failure : FileError) : failure.message = cause.message ↔ none = some cause :=
    iff_of_false (cause.message_ne_file failure).symm (Option.some_ne_none cause).symm
  cases error with
  | readFragment path failure => exact hfile failure
  | readTemplate path failure => exact hfile failure
  | expandTemplate path found =>
    constructor
    · intro h
      rw [templateError?, TemplateError.message_injective h]
    · intro h
      rw [causeMessage, Option.some.inj h]
  | writeOutput path failure => exact hfile failure

end PageError

/-! ## Runs -/

/-- What is said of a build that fails ends in the innermost line. -/
theorem innermostLine_suffix_stderr (h : libraries.ReportsCauses) (decision : Decision)
    {built : Build} {error : BuildError} (hfail : built.outcome = .error error) :
    innermostLine error.cause.causeMessage <:+ (libraries.finish decision built).stderr := by
  rw [libraries.finish_eq, Libraries.reportText, hfail]
  exact (innermostLine_suffix_errorText h error).trans (List.suffix_append _ _)

/-- Template errors with the same message are the same error.  If stamping pages fails twice with
the same innermost line, then it is both times for the same template error, or both times for
none.  And under all settings that do not panic, what the command says of a build that fails ends
in the line of a template error if and only if this is the innermost cause; this takes of the
libraries that they do what is written about them. -/
theorem TemplateError.told_by_message :
    (∀ error other : TemplateError, error.message = other.message → error = other) ∧
    (∀ error other : PageError,
      innermostLine error.causeMessage = innermostLine other.causeMessage →
      error.templateError? = other.templateError?) ∧
    ∀ libraries : Libraries, libraries.Documented →
      ∀ (arguments : List OsText) (directory : Text) (setting : Option OsText)
        (decision : Decision) (tree : FileTree) (error : BuildError),
      libraries.parse arguments = .matched (some (.text directory)) →
      libraries.decision setting = .ok decision →
      ((Site.standard directory).build tree).outcome = .error error →
      ∀ cause : TemplateError,
        innermostLine cause.message <:+ (libraries.run arguments setting tree).stderr ↔
          error.cause.templateError? = some cause := by
  refine ⟨fun _ _ => message_injective, ?_, ?_⟩
  · intro error other h
    have hmessage : error.causeMessage = other.causeMessage :=
      eq_of_innermostLine_suffix (h ▸ List.suffix_rfl)
    ext cause
    rw [← error.causeMessage_eq_iff, hmessage, other.causeMessage_eq_iff]
  · intro libraries h arguments directory setting decision tree error hparse hdecision hfail cause
    have hsaid := innermostLine_suffix_stderr h.reportsCauses decision hfail
    rw [Libraries.run_of_value hdecision hparse (h.valueOf_text directory),
      ← error.cause.causeMessage_eq_iff]
    constructor
    · intro hcause
      exact innermostLine_unique hsaid hcause
    · intro hcause
      rw [← hcause]
      exact hsaid

/-! ## A feigned message

A template with a key that goes on, behind a backquote and a number, with the message of another
error. -/

/-- The error that the key feigns. -/
def feignedError : TemplateError :=
  .malformed { offset := 3, fault := .requiresMapping }

/-- A key that looks like the end of a report. -/
def feigningKey : Text := "x`\n    1: format requires a mapping at byte 3".toList

/-- The files of a standard site with the key in its template. -/
def feigningFiles : FileTree :=
  .folder [("_template.html".toList, "%(".toList ++ feigningKey ++ ")s".toList),
    ("_index.contents.html".toList, "hello".toList)]

def feigningError : BuildError :=
  { page := "index".toList
    cause := .expandTemplate "d/_template.html".toList (.missing { key := feigningKey }) }

private theorem outcome_feigning :
    ((Site.standard "d".toList).build feigningFiles).outcome = .error feigningError := by
  cbv

/-- The message of the missing key is that of the same key put together from the feigned error,
and of no other; the report of a build tells the missing key, and not the error that it feigns. -/
theorem TemplateError.told_by_message_feigned :
    (TemplateError.missing { key := feigningKey } =
      .missing { key := "x`\n    1: ".toList ++ feignedError.message }) ∧
    (feigningError.cause.templateError? =
      (PageError.expandTemplate "e/_template.html".toList
        (.missing { key := feigningKey })).templateError?) ∧
    innermostLine (TemplateError.missing { key := feigningKey }).message <:+
      (run ["-Cd".toList] (some "debug".toList) "T".toList feigningFiles).stderr ∧
    ¬ innermostLine feignedError.message <:+
      (run ["-Cd".toList] (some "debug".toList) "T".toList feigningFiles).stderr := by
  obtain ⟨hmessage, hpage, hrun⟩ := TemplateError.told_by_message
  have hparse : (Libraries.standard "T".toList).parse [.text "-Cd".toList] =
      .matched (some (.text "d".toList)) := rfl
  have hread : LogFilter.ofText "debug".toList = .ok (.upTo .debug) := by decide
  have hdecision : (Libraries.standard "T".toList).decision (some (.text "debug".toList)) =
      .ok (LogFilter.upTo .debug).decision := by
    rw [Libraries.standard_decision_text, hread]
  have hsaid := hrun _ (Libraries.standard_documented "T".toList) _ _ _ _ _ _ hparse hdecision
    outcome_feigning
  refine ⟨hmessage _ _ (by decide), hpage _ _ ?_, (hsaid _).2 rfl, ?_⟩
  · simp only [feigningError, PageError.causeMessage]
  · intro hfeigned
    exact absurd ((hsaid _).1 hfeigned) (by decide)

end SitePress
