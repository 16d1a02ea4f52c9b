import Mathlib
import SitePress.Proofs.Site.Collision
import SitePress.Proofs.Site.Stamping

/-!
# Where builds halt

A build halts at the first page that fails on the tree that the pages in front of it
left.  A page may fail because of what they wrote, or succeed because of it, so this is
a page that fails behind these pages and not one that would fail by itself.  A template
that no page is written to is the same for every page, and whether it expands does not
depend on the page; if it is at fault, already the first page fails.

## Main definitions

* `Site.withPages` — a site with other pages.
* `Site.HaltsAt` — the page at which a build fails, and the pages on both sides of it.
* `Site.SparesTemplate` — that no page is written to the template.

## Main statements

* `Site.build_halts_at_first_failure` — how a build is made up of its pages.
* `Site.template_fault_on_first_page` — that a template is at fault at once or never.
-/

namespace SitePress.Site

variable {site : Site} {pages others front behind front' behind' : List Text}
  {error error' : BuildError} {tree after after' : FileTree}

/-! ## Sites with other pages -/

def withPages (site : Site) (pages : List Text) : Site :=
  { site with pages }

theorem Stamped.withPages (h : site.Stamped pages tree after) (others : List Text) :
    (site.withPages others).Stamped pages tree after := by
  induction h with
  | nil => exact .nil
  | cons hpage _ ih => exact .cons hpage ih

theorem stamped_withPages_iff :
    (site.withPages others).Stamped pages tree after ↔ site.Stamped pages tree after :=
  ⟨fun h => h.withPages site.pages, fun h => h.withPages others⟩

/-- Some pages are built if and only if they are stamped. -/
theorem build_withPages_eq_ok_iff :
    (((site.withPages pages).build tree).outcome = .ok () ∧
        ((site.withPages pages).build tree).tree = after) ↔ site.Stamped pages tree after :=
  build_eq_ok_iff.trans stamped_withPages_iff

/-! ## The page that fails -/

/-- The pages `front` are built, and the page behind them fails on the tree that they leave. -/
structure HaltsAt (site : Site) (tree : FileTree) (front : List Text) (error : BuildError)
    (behind : List Text) : Prop where
  pages : site.pages = front ++ error.page :: behind
  built : ((site.withPages front).build tree).outcome = .ok ()
  failed : (Page.stamp site.directory site.template error.page
    ((site.withPages front).build tree).tree).1 = .error error.cause

theorem haltsAt_iff :
    site.HaltsAt tree front error behind ↔
      site.pages = front ++ error.page :: behind ∧ ∃ after, site.Stamped front tree after ∧
        Page.stamp site.directory site.template error.page after = (.error error.cause, after) := by
  constructor
  · rintro ⟨hpages, hbuilt, hfailed⟩
    refine ⟨hpages, _, build_withPages_eq_ok_iff.1 ⟨hbuilt, rfl⟩, Prod.ext hfailed ?_⟩
    exact Page.eq_of_stamp_eq_error (Prod.ext hfailed rfl)
  · rintro ⟨hpages, after, hstamped, hpage⟩
    obtain ⟨hbuilt, htree⟩ := build_withPages_eq_ok_iff.2 hstamped
    exact ⟨hpages, hbuilt, by rw [htree, hpage]⟩

theorem haltsAt_withPages_iff :
    (site.withPages pages).HaltsAt tree front error behind ↔
      pages = front ++ error.page :: behind ∧ ∃ after, site.Stamped front tree after ∧
        Page.stamp site.directory site.template error.page after =
          (.error error.cause, after) := by
  rw [haltsAt_iff]
  simp only [stamped_withPages_iff]
  rfl

/-- Of two ways to stamp pages up to one that fails, neither goes farther than the other. -/
theorem Stamped.eq_of_failed {page page' : Text} {cause cause' : PageError}
    (h : site.Stamped front tree after)
    (hpage : Page.stamp site.directory site.template page after = (.error cause, after))
    (h' : site.Stamped front' tree after')
    (hpage' : Page.stamp site.directory site.template page' after' = (.error cause', after'))
    (heq : front ++ page :: behind = front' ++ page' :: behind') : front = front' := by
  induction h generalizing front' with
  | nil =>
    cases h' with
    | nil => rfl
    | cons hfirst' _ =>
      -- the page that fails on one way would be stamped on the other
      obtain ⟨rfl, -⟩ := List.cons_eq_cons.1 heq
      cases hpage.symm.trans hfirst'
  | cons hfirst _ ih =>
    cases h' with
    | nil =>
      obtain ⟨rfl, -⟩ := List.cons_eq_cons.1 heq
      cases hfirst.symm.trans hpage'
    | cons hfirst' hrest' =>
      obtain ⟨rfl, hrest⟩ := List.cons_eq_cons.1 heq
      obtain ⟨-, rfl⟩ := Prod.mk.inj (hfirst.symm.trans hfirst')
      rw [ih hpage hrest' hrest]

namespace HaltsAt

/-- A build halts at one page only. -/
theorem unique (h : site.HaltsAt tree front error behind)
    (h' : site.HaltsAt tree front' error' behind') :
    front = front' ∧ error = error' ∧ behind = behind' := by
  obtain ⟨hpages, after, hstamped, hpage⟩ := haltsAt_iff.1 h
  obtain ⟨hpages', after', hstamped', hpage'⟩ := haltsAt_iff.1 h'
  have heq := hpages.symm.trans hpages'
  obtain rfl := hstamped.eq_of_failed hpage hstamped' hpage' heq
  obtain rfl := hstamped.unique hstamped'
  obtain ⟨hname, rfl⟩ := List.cons_eq_cons.1 (List.append_cancel_left heq)
  rw [hname, hpage'] at hpage
  refine ⟨rfl, ?_, rfl⟩
  cases error
  cases error'
  cases hname
  cases hpage
  rfl

theorem build_eq (h : site.HaltsAt tree front error behind) :
    site.build tree =
      { outcome := .error error, tree := ((site.withPages front).build tree).tree
        events := site.stampedEvents front ++ [site.resolvedEvent error.page] } := by
  obtain ⟨hpages, after, hstamped, hpage⟩ := haltsAt_iff.1 h
  rw [(build_withPages_eq_ok_iff.2 hstamped).2]
  exact hstamped.build_eq_of_failed hpages hpage

theorem completed (h : site.HaltsAt tree front error behind) : site.Completed tree front := by
  obtain ⟨hpages, after, hstamped, hpage⟩ := haltsAt_iff.1 h
  have hbuild := hstamped.build_eq_of_failed hpages hpage
  refine ⟨by rwa [hbuild], ?_⟩
  rw [hbuild]
  exact ⟨behind, hpages, hpage⟩

end HaltsAt

/-- A build fails if and only if it halts at a page. -/
theorem build_eq_error_iff :
    (site.build tree).outcome = .error error ↔
      ∃ front behind, site.HaltsAt tree front error behind := by
  constructor
  · intro houtcome
    obtain ⟨completed, hstamped, hends⟩ := site.exists_completed tree
    rw [houtcome] at hends
    obtain ⟨behind, hpages, hpage⟩ := hends
    exact ⟨completed, behind, haltsAt_iff.2 ⟨hpages, _, hstamped, hpage⟩⟩
  · rintro ⟨front, behind, h⟩
    rw [h.build_eq]

/-! ## Pages behind pages -/

/-- Behind pages that are not built, nothing is. -/
theorem build_append_of_error
    (h : ((site.withPages pages).build tree).outcome = .error error) (others : List Text) :
    (site.withPages (pages ++ others)).build tree = (site.withPages pages).build tree := by
  obtain ⟨front, behind, hhalts⟩ := build_eq_error_iff.1 h
  obtain ⟨rfl, after, hstamped, hpage⟩ := haltsAt_withPages_iff.1 hhalts
  have hfurther : (site.withPages (front ++ error.page :: behind ++ others)).HaltsAt tree front
      error (behind ++ others) :=
    haltsAt_withPages_iff.2 ⟨by simp, after, hstamped, hpage⟩
  rw [hhalts.build_eq, hfurther.build_eq]
  rfl

/-- Behind pages that are built, further pages are built as they are on the tree that those
leave. -/
theorem build_append_of_ok (h : site.Stamped pages tree after) (others : List Text) :
    ((site.withPages (pages ++ others)).build tree).outcome =
        ((site.withPages others).build after).outcome ∧
      ((site.withPages (pages ++ others)).build tree).tree =
        ((site.withPages others).build after).tree := by
  rcases houtcome : ((site.withPages others).build after).outcome with error | _
  · -- the whole build halts at the page at which the further pages do
    obtain ⟨front, behind, hhalts⟩ := build_eq_error_iff.1 houtcome
    obtain ⟨rfl, last, hstamped, hpage⟩ := haltsAt_withPages_iff.1 hhalts
    have hfront := h.append hstamped
    have hfurther : (site.withPages (pages ++ (front ++ error.page :: behind))).HaltsAt tree
        (pages ++ front) error behind :=
      haltsAt_withPages_iff.2 ⟨by simp, last, hfront, hpage⟩
    rw [hfurther.build_eq, hhalts.build_eq]
    refine ⟨rfl, ?_⟩
    exact (build_withPages_eq_ok_iff.2 hfront).2.trans
      (build_withPages_eq_ok_iff.2 hstamped).2.symm
  · have hothers := build_withPages_eq_ok_iff.1 ⟨houtcome, rfl⟩
    exact build_withPages_eq_ok_iff.2 (h.append hothers)

/-! ## Builds -/

/-- A build fails if and only if some page fails behind pages that are built, and this is one
page only; then the build leaves the tree that those pages left, in which only their files
have changed.  It succeeds if and only if all pages are stamped one behind the other.  Further
pages are built only if those in front of them are, and then on the tree that these leave. -/
theorem build_halts_at_first_failure (site : Site) (tree : FileTree) :
    (∀ error, (site.build tree).outcome = .error error ↔
      ∃ front behind, site.HaltsAt tree front error behind) ∧
    (∀ front error behind front' error' behind', site.HaltsAt tree front error behind →
      site.HaltsAt tree front' error' behind' →
      front = front' ∧ error = error' ∧ behind = behind') ∧
    (∀ front error behind, site.HaltsAt tree front error behind →
      (site.build tree).tree = ((site.withPages front).build tree).tree ∧
      (site.build tree).tree.here = tree.here ∧
      ∀ location,
        (∀ page ∈ front, ¬ tree.Denotes (Page.outputPath site.directory page) location) →
        (site.build tree).tree.find? location = tree.find? location) ∧
    (∀ after, ((site.build tree).outcome = .ok () ∧ (site.build tree).tree = after) ↔
      site.Stamped site.pages tree after) ∧
    ∀ pages others,
      match ((site.withPages pages).build tree).outcome with
      | .error _ =>
        (site.withPages (pages ++ others)).build tree = (site.withPages pages).build tree
      | .ok () =>
        ((site.withPages (pages ++ others)).build tree).outcome =
            ((site.withPages others).build ((site.withPages pages).build tree).tree).outcome ∧
          ((site.withPages (pages ++ others)).build tree).tree =
            ((site.withPages others).build ((site.withPages pages).build tree).tree).tree := by
  refine ⟨fun error => build_eq_error_iff, fun front error behind front' error' behind' => ?_,
    fun front error behind h => ?_, fun after => build_eq_ok_iff, fun pages others => ?_⟩
  · exact HaltsAt.unique
  · have htree : (site.build tree).tree = ((site.withPages front).build tree).tree := by
      rw [h.build_eq]
    have hstamped := build_withPages_eq_ok_iff.1 ⟨h.built, htree.symm⟩
    exact ⟨htree, hstamped.sameDirectories.here, fun location => hstamped.find?_eq⟩
  · split
    next error houtcome => exact build_append_of_error houtcome others
    next houtcome => exact build_append_of_ok (build_withPages_eq_ok_iff.1 ⟨houtcome, rfl⟩) others

/-! ## A relay

A site that is built as far as it is only because one of its pages is written over the
fragment of the next. -/

/-- A site whose first page is written over the fragment of its second, and whose third has no
fragment. -/
def relay : Site :=
  { directory := "d".toList, template := "_t".toList
    pages := ["_a.contents".toList, "a".toList, "c".toList] }

def relayFiles : FileTree :=
  .folder [("_t".toList, "%(contents)s!".toList),
    ("__a.contents.contents.html".toList, "new".toList),
    ("_a.contents.html".toList, "old".toList)]

def relayError : BuildError :=
  { page := "c".toList, cause := .readFragment "d/_c.contents.html".toList .notFound }

private theorem haltsAt_relay :
    relay.HaltsAt relayFiles ["_a.contents".toList, "a".toList] relayError [] where
  pages := rfl
  built := by cbv
  failed := by cbv

/-- The relay halts at its third page; the second has been stamped from what the first wrote
over its fragment, and the template is as it was. -/
theorem build_halts_at_first_failure_relay :
    relay.HaltsAt relayFiles ["_a.contents".toList, "a".toList] relayError [] ∧
    (relay.build relayFiles).outcome = .error relayError ∧
    (relay.build relayFiles).tree.readBytes "d/a.html".toList =
      .ok (Text.encode "new!!".toList) ∧
    (relay.build relayFiles).tree.find? ["_t".toList, "d".toList] =
      relayFiles.find? ["_t".toList, "d".toList] := by
  obtain ⟨houtcome, -, hhalts, -⟩ := build_halts_at_first_failure relay relayFiles
  obtain ⟨htree, -, hothers⟩ := hhalts _ _ _ haltsAt_relay
  refine ⟨haltsAt_relay, (houtcome _).2 ⟨_, _, haltsAt_relay⟩, ?_, hothers _ ?_⟩
  · rw [htree]
    cbv
  · intro page hpage hlocation
    have hlocate := hlocation.eq_locate
    revert hlocate
    fin_cases hpage <;> decide

/-! ## The template -/

/-- No page is written to the template. -/
def SparesTemplate (site : Site) (tree : FileTree) : Prop :=
  ∀ page ∈ site.pages, ¬ tree.SameFile (Page.outputPath site.directory page)
    (Page.templatePath site.directory site.template)

/-- If some page is stamped, then the template can be read and expands for a page. -/
theorem Stamped.exists_expand (h : site.Stamped pages tree after) (hsome : pages ≠ []) :
    ∃ source page fragment text,
      tree.read (Page.templatePath site.directory site.template) = .ok source ∧
      Template.expand source (Page.values page fragment) = .ok text := by
  cases h with
  | nil => exact absurd rfl hsome
  | @cons page _ _ _ _ hpage _ =>
    obtain ⟨text, -, htext, -, -⟩ := Page.stamp_eq_ok_iff.1 hpage
    obtain ⟨fragment, source, -, hsource, hexpand⟩ := Page.text_eq_ok_iff.1 htext
    exact ⟨source, page, fragment, text, hsource, hexpand⟩

/-- Behind a page that has been stamped, no page fails for the template: it is still the same,
and it expands for every page as it did for that one. -/
theorem Completed.own_cause {completed : List Text} (h : site.Completed tree completed)
    (hspares : site.SparesTemplate tree) (hsome : completed ≠ [])
    (houtcome : (site.build tree).outcome = .error error) :
    (∃ cause, error.cause =
        .readFragment (Page.fragmentPath site.directory error.page) cause) ∨
      ∃ cause, error.cause = .writeOutput (Page.outputPath site.directory error.page) cause := by
  have hends := h.ends
  rw [houtcome] at hends
  obtain ⟨behind, -, hpage⟩ := hends
  obtain ⟨source, first, fragment, text, hsource, htext⟩ := h.stamped.exists_expand hsome
  have hstill : (site.build tree).tree.read
      (Page.templatePath site.directory site.template) = .ok source :=
    (h.stamped.read_eq_ok_iff fun page hdone => hspares page (h.subset hdone)).2 hsource
  -- the fragment of the page that fails may be anything, so the template fails for it only if
  -- it fails for every fragment
  generalize hcause : error.cause = cause at hpage
  cases Page.stamp_eq_iff_ends.1 hpage with
  | readFragment _ => exact .inl ⟨_, rfl⟩
  | readTemplate _ hunread => cases hstill.symm.trans hunread
  | expandTemplate _ hread hunexpanded =>
    obtain rfl := Except.ok.inj (hstill.symm.trans hread)
    cases htext.symm.trans (Page.expand_values_eq_error hunexpanded first fragment)
  | writeOutput _ _ _ _ => exact .inr ⟨_, rfl⟩

/-- If no page is written to the template, then a build that fails behind a page that it has
stamped fails for the fragment or the file of a page; and if it fails for the template, it has
stamped no page and leaves the tree as it was.  No standard site writes a page to its template. -/
theorem template_fault_on_first_page :
    (∀ (site : Site) (tree : FileTree) (completed : List Text) (error : BuildError),
      site.SparesTemplate tree → site.Completed tree completed →
      (site.build tree).outcome = .error error →
      (completed ≠ [] →
        (∃ cause, error.cause =
            .readFragment (Page.fragmentPath site.directory error.page) cause) ∨
          ∃ cause, error.cause =
            .writeOutput (Page.outputPath site.directory error.page) cause) ∧
      ((∃ path cause, error.cause = .readTemplate path cause) ∨
          (∃ path cause, error.cause = .expandTemplate path cause) →
        completed = [] ∧ (site.build tree).tree = tree)) ∧
    ∀ (directory : Text) (tree : FileTree), (standard directory).SparesTemplate tree := by
  refine ⟨fun site tree completed error hspares h houtcome => ?_, fun directory tree => ?_⟩
  · have hown := fun hsome => h.own_cause hspares hsome houtcome
    refine ⟨hown, fun hfault => ?_⟩
    have hnone : completed = [] := by
      by_contra hsome
      rcases hfault with ⟨path, cause, hcause⟩ | ⟨path, cause, hcause⟩ <;>
        rcases hown hsome with ⟨_, hother⟩ | ⟨_, hother⟩ <;>
        cases hcause.symm.trans hother
    subst hnone
    exact ⟨rfl, (h.stamped.unique .nil)⟩
  · exact fun page hpage =>
      (collisionFree_standard directory tree).inputs page hpage _ List.mem_cons_self

/-- The files of the relay with a fault in the template. -/
def faultyRelayFiles : FileTree :=
  relayFiles.set ["_t".toList, "d".toList] (.file (Text.encode "100%".toList))

private theorem sparesTemplate_relay (tree : FileTree) : relay.SparesTemplate tree := by
  intro page hpage hsame
  have htemplate : Path.Plain relay.template :=
    ⟨by decide, by decide, by decide, by decide⟩
  have houtput : Path.Plain (page ++ ".html".toList) := by
    fin_cases hpage <;> exact Path.plain_of_length (by decide) (by decide)
  have heq := houtput.eq_of_sameFile htemplate hsame
  revert heq
  fin_cases hpage <;> decide

/-- The relay fails for a fragment, behind two pages.  With a fault in its template it fails at
its first page, and nothing is written. -/
theorem template_fault_on_first_page_relay :
    (relay.SparesTemplate relayFiles ∧
      relay.Completed relayFiles ["_a.contents".toList, "a".toList] ∧
      (relay.build relayFiles).outcome = .error relayError ∧
      ((∃ cause, relayError.cause = .readFragment "d/_c.contents.html".toList cause) ∨
        ∃ cause, relayError.cause = .writeOutput "d/c.html".toList cause)) ∧
    ∃ completed error,
      relay.Completed faultyRelayFiles completed ∧
      (relay.build faultyRelayFiles).outcome = .error error ∧
      completed = [] ∧ (relay.build faultyRelayFiles).tree = faultyRelayFiles := by
  have houtcome : (relay.build relayFiles).outcome = .error relayError :=
    build_eq_error_iff.2 ⟨_, _, haltsAt_relay⟩
  refine ⟨⟨sparesTemplate_relay _, haltsAt_relay.completed, houtcome, ?_⟩, ?_⟩
  · exact (template_fault_on_first_page.1 relay relayFiles _ _ (sparesTemplate_relay _)
      haltsAt_relay.completed houtcome).1 (by decide)
  · obtain ⟨completed, hcompleted⟩ := relay.exists_completed faultyRelayFiles
    have hfaulty : (relay.build faultyRelayFiles).outcome =
        .error { page := "_a.contents".toList
                 cause := .expandTemplate "d/_t".toList
                   (.malformed { offset := 3, fault := .incompleteFormat }) } := by
      cbv
    exact ⟨completed, _, hcompleted, hfaulty, (template_fault_on_first_page.1 relay _ _ _
      (sparesTemplate_relay _) hcompleted hfaulty).2 (.inr ⟨_, _, rfl⟩)⟩

end SitePress.Site
