import SitePress.Command.Log
import SitePress.Proofs.Site.Stamping

/-!
# What the log tells

A build says what it is about to do with a page, and what it has done with it, and the
stages of a page that can fail lie between the two.  So a page that fails is announced and
never reported as written, at whatever stage it fails, and at every point of the log the
pages that have been reported are those that have been stamped.
-/

namespace SitePress

variable {site : Site} {completed front behind : List Text} {tree after : FileTree}

/-! ## Events -/

/-- The page that an event reports as written. -/
def Event.written? : Event → Option Text
  | .wrote page => some page
  | _ => none

namespace Site

/-- What a build reports behind the pages that it completes: the page at which it fails, or how
many pages there were. -/
def lastEvents (site : Site) : Except BuildError Unit → List Event
  | .error error => [site.resolvedEvent error.page]
  | .ok () => [.complete site.pages.length]

/-- The events of a build are those of the pages that it completes, and what comes last. -/
theorem Completed.events_eq (h : site.Completed tree completed) :
    (site.build tree).events =
      site.stampedEvents completed ++ site.lastEvents (site.build tree).outcome := by
  obtain ⟨hstamped, hends⟩ := h
  split at hends
  next houtcome =>
    subst hends
    rw [houtcome]
    exact congrArg Build.events hstamped.build_eq
  next error houtcome =>
    obtain ⟨behind, hpages, hpage⟩ := hends
    rw [houtcome]
    exact congrArg Build.events (hstamped.build_eq_of_failed hpages hpage)

/-- Of the events of pages that are stamped, every second one reports its page. -/
theorem filterMap_written?_stampedEvents (site : Site) (pages : List Text) :
    (site.stampedEvents pages).filterMap Event.written? = pages := by
  induction pages with
  | nil => rfl
  | cons page pages ih =>
    rw [stampedEvents, List.flatMap_cons, List.filterMap_append, ← stampedEvents, ih]
    rfl

theorem filterMap_written?_lastEvents (site : Site) (outcome : Except BuildError Unit) :
    (site.lastEvents outcome).filterMap Event.written? = [] := by
  cases outcome <;> rfl

/-- The pages that are reported as written are those that are completed. -/
theorem Completed.filterMap_written? (h : site.Completed tree completed) :
    (site.build tree).events.filterMap Event.written? = completed := by
  rw [h.events_eq, List.filterMap_append, filterMap_written?_stampedEvents,
    filterMap_written?_lastEvents, List.append_nil]

/-- Completion is reported only of builds that succeed, with the number of pages. -/
theorem Completed.complete_mem_iff (h : site.Completed tree completed) (count : Nat) :
    .complete count ∈ (site.build tree).events ↔
      (site.build tree).outcome = .ok () ∧ count = site.pages.length := by
  have hstamped : .complete count ∉ site.stampedEvents completed := by
    simp [stampedEvents, resolvedEvent]
  rw [h.events_eq, List.mem_append, or_iff_right hstamped]
  cases (site.build tree).outcome with
  | error error => simp [lastEvents, resolvedEvent]
  | ok _ => simp [lastEvents]

theorem Stamped.exists_middle (h : site.Stamped (front ++ behind) tree after) :
    ∃ middle, site.Stamped front tree middle ∧ site.Stamped behind middle after := by
  induction front generalizing tree with
  | nil => exact ⟨tree, .nil, h⟩
  | cons page front ih =>
    cases h with
    | cons hpage hpages =>
      obtain ⟨middle, hfront, hbehind⟩ := ih hpages
      exact ⟨middle, .cons hpage hfront, hbehind⟩

/-- At every point between events, the pages reported so far have been stamped, and those still
to be reported are stamped on the tree that they left. -/
theorem Completed.exists_middle (h : site.Completed tree completed) (n : Nat) :
    ∃ middle,
      site.Stamped (((site.build tree).events.take n).filterMap Event.written?) tree middle ∧
      site.Stamped (((site.build tree).events.drop n).filterMap Event.written?) middle
        (site.build tree).tree := by
  apply Stamped.exists_middle
  rw [← List.filterMap_append, List.take_append_drop, h.filterMap_written?]
  exact h.stamped

end Site

/-! ## Lines -/

theorem logLines_append (decision : Decision) (line : Event → Text) (events more : List Event) :
    logLines decision line (events ++ more) =
      logLines decision line events ++ logLines decision line more := by
  simp [logLines]

theorem logLines_cons (decision : Decision) (line : Event → Text) (event : Event)
    (events : List Event) :
    logLines decision line (event :: events) =
      (if decision event.metadata then line event else []) ++ logLines decision line events := by
  unfold logLines
  rw [List.filter_cons]
  split <;> rfl

theorem logLines_singleton (decision : Decision) (line : Event → Text) (event : Event) :
    logLines decision line [event] = if decision event.metadata then line event else [] := by
  rw [logLines_cons]
  exact List.append_nil _

/-- The log of pages that are stamped: two lines for each of them, or only one of the two kinds,
or none. -/
theorem logLines_stampedEvents (decision : Decision) (line : Event → Text) (site : Site)
    (pages : List Text) :
    logLines decision line (site.stampedEvents pages) = pages.flatMap fun page =>
      (if decision .resolved then line (site.resolvedEvent page) else []) ++
        if decision .wrote then line (.wrote page) else [] := by
  induction pages with
  | nil => rfl
  | cons page pages ih =>
    rw [Site.stampedEvents, List.flatMap_cons, List.flatMap_cons, ← Site.stampedEvents,
      logLines_append, ih, logLines_cons, logLines_singleton]
    rfl

theorem logLines_lastEvents (decision : Decision) (line : Event → Text) (site : Site)
    (outcome : Except BuildError Unit) :
    logLines decision line (site.lastEvents outcome) =
      match outcome with
      | .error error => if decision .resolved then line (site.resolvedEvent error.page) else []
      | .ok () => if decision .complete then line (.complete site.pages.length) else [] := by
  cases outcome with
  | error error => exact logLines_singleton decision line _
  | ok _ => exact logLines_singleton decision line _

/-! ## Builds -/

/-- A build reports, of every page that it completes, the files and then that it is written;
then the files of the page at which it fails, or how many pages there were.  So the pages that
are reported as written are those that are stamped, in their order and as often, and at every
point those reported so far have been stamped and the others have not; completion is reported
if and only if the build succeeds.  Whatever is decided by metadata, and however lines are
written, the log has the lines of the events that are let through, in their order, and it is
decided once for all pages. -/
theorem Site.events_tell_build (site : Site) (tree : FileTree) :
    ∃ completed, site.Completed tree completed ∧
      (site.build tree).events =
        (completed.flatMap fun page =>
          [.resolved page (Page.fragmentPath site.directory page)
            (Page.templatePath site.directory site.template)
            (Page.outputPath site.directory page), .wrote page]) ++
        (match (site.build tree).outcome with
        | .error error =>
          [.resolved error.page (Page.fragmentPath site.directory error.page)
            (Page.templatePath site.directory site.template)
            (Page.outputPath site.directory error.page)]
        | .ok () => [.complete site.pages.length]) ∧
      (site.build tree).events.filterMap Event.written? = completed ∧
      (∀ n, ∃ middle,
        site.Stamped (((site.build tree).events.take n).filterMap Event.written?) tree middle ∧
        site.Stamped (((site.build tree).events.drop n).filterMap Event.written?) middle
          (site.build tree).tree) ∧
      (∀ count, .complete count ∈ (site.build tree).events ↔
        (site.build tree).outcome = .ok () ∧ count = site.pages.length) ∧
      ∀ (decision : Decision) (line : Event → Text),
        logLines decision line (site.build tree).events =
            ((site.build tree).events.filter (decision ·.metadata)).flatMap line ∧
          logLines decision line (site.build tree).events =
            (completed.flatMap fun page =>
              (if decision .resolved then line (site.resolvedEvent page) else []) ++
                if decision .wrote then line (.wrote page) else []) ++
            match (site.build tree).outcome with
            | .error error =>
              if decision .resolved then line (site.resolvedEvent error.page) else []
            | .ok () => if decision .complete then line (.complete site.pages.length) else [] := by
  obtain ⟨completed, h⟩ := site.exists_completed tree
  refine ⟨completed, h, ?_, h.filterMap_written?, h.exists_middle, h.complete_mem_iff,
    fun decision line => ⟨rfl, ?_⟩⟩
  · rw [h.events_eq]
    cases (site.build tree).outcome <;> rfl
  · rw [h.events_eq, logLines_append, logLines_stampedEvents, logLines_lastEvents]

end SitePress
