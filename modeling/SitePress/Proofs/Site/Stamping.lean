import SitePress.Proofs.Site.Stages
import SitePress.Site.Build

/-!
# Builds page by page

A build stamps the pages in front of the first one that fails, each on the tree that its
predecessors left.  The pages that it stamps and the tree that they leave decide all
there is to a build: its outcome and its events.  The files of these pages are all that
changes, whatever the files are.
-/

namespace SitePress

/-! ## Pages one behind the other -/

namespace Site

variable {site : Site} {page : Text} {pages front behind : List Text}
  {tree after other : FileTree} {cause : PageError}

/-- The pages are stamped one behind the other, each on the tree that the one in front of it
leaves, from `tree` to `after`. -/
inductive Stamped (site : Site) : List Text → FileTree → FileTree → Prop
  | nil {tree : FileTree} : Stamped site [] tree tree
  | cons {page : Text} {pages : List Text} {tree middle after : FileTree}
    (hpage : Page.stamp site.directory site.template page tree = (.ok (), middle))
    (hpages : Stamped site pages middle after) : Stamped site (page :: pages) tree after

theorem Stamped.append (h : site.Stamped front tree after)
    (hbehind : site.Stamped behind after other) : site.Stamped (front ++ behind) tree other := by
  induction h with
  | nil => exact hbehind
  | cons hpage _ ih => exact .cons hpage (ih hbehind)

/-- Pages are stamped in one way only. -/
theorem Stamped.unique (h : site.Stamped pages tree after)
    (hother : site.Stamped pages tree other) : after = other := by
  induction h with
  | nil =>
    cases hother
    rfl
  | cons hpage _ ih =>
    cases hother with
    | cons hpage' hpages' =>
      obtain ⟨-, rfl⟩ := Prod.mk.inj (hpage.symm.trans hpage')
      exact ih hpages'

/-! ## What stays -/

/-- Pages make no directory and take none away. -/
theorem Stamped.sameDirectories (h : site.Stamped pages tree after) :
    tree.SameDirectories after := by
  induction h with
  | nil => exact .refl _
  | cons hpage _ ih =>
    obtain ⟨text, location, -, hlocation, rfl⟩ := Page.stamp_eq_ok_iff.1 hpage
    exact .trans (.set_file hlocation.file _) ih

/-- Only the files of the pages change. -/
theorem Stamped.find?_eq (h : site.Stamped pages tree after) {location : Location}
    (houtputs : ∀ page ∈ pages, ¬ tree.Denotes (Page.outputPath site.directory page) location) :
    after.find? location = tree.find? location := by
  induction h with
  | nil => rfl
  | cons hpage _ ih =>
    obtain ⟨text, place, -, hplace, rfl⟩ := Page.stamp_eq_ok_iff.1 hpage
    have hdirectories := FileTree.SameDirectories.set_file hplace.file (Text.encode text)
    rw [ih, FileTree.find?_set, if_neg]
    · rintro rfl
      exact houtputs _ List.mem_cons_self hplace
    · intro page hpage hlocation
      exact houtputs page (List.mem_cons_of_mem _ hpage) (hdirectories.denotes_iff.1 hlocation)

theorem Stamped.read_eq_ok_iff (h : site.Stamped pages tree after) {path text : Text}
    (houtputs : ∀ page ∈ pages, ¬ tree.SameFile (Page.outputPath site.directory page) path) :
    after.read path = .ok text ↔ tree.read path = .ok text := by
  rw [FileTree.read_eq_ok_iff, FileTree.read_eq_ok_iff]
  refine h.sameDirectories.readBytes_eq_ok_iff fun location hlocation => h.find?_eq ?_
  exact fun page hpage houtput => houtputs page hpage ⟨location, houtput, hlocation⟩

/-! ## Events -/

/-- The events of pages that are stamped. -/
def stampedEvents (site : Site) (pages : List Text) : List Event :=
  pages.flatMap fun page => [site.resolvedEvent page, .wrote page]

/-- Pages that are stamped are in front of what is built on the tree that they leave. -/
theorem Stamped.buildPages_append (h : site.Stamped front tree after) (behind : List Text) :
    site.buildPages (front ++ behind) tree =
      { site.buildPages behind after with
        events := site.stampedEvents front ++ (site.buildPages behind after).events } := by
  induction h with
  | nil => rfl
  | cons hpage _ ih =>
    rw [List.cons_append, buildPages, hpage]
    simp only [ih]
    rfl

/-- Every list of pages is stamped to its end or up to a page that fails. -/
theorem exists_stamped (site : Site) (pages : List Text) (tree : FileTree) :
    ∃ front after, site.Stamped front tree after ∧
      (pages = front ∨ ∃ page behind cause, pages = front ++ page :: behind ∧
        Page.stamp site.directory site.template page after = (.error cause, after)) := by
  induction pages generalizing tree with
  | nil => exact ⟨[], tree, .nil, .inl rfl⟩
  | cons page pages ih =>
    rcases hstamp : Page.stamp site.directory site.template page tree with ⟨cause | _, middle⟩
    · obtain rfl := Page.eq_of_stamp_eq_error hstamp
      exact ⟨[], _, .nil, .inr ⟨page, pages, cause, rfl, hstamp⟩⟩
    · obtain ⟨front, after, hfront, hends⟩ := ih middle
      refine ⟨page :: front, after, .cons hstamp hfront, ?_⟩
      obtain rfl | ⟨next, behind, cause, rfl, hnext⟩ := hends
      · exact .inl rfl
      · exact .inr ⟨next, behind, cause, rfl, hnext⟩

/-! ## Builds -/

/-- A build whose pages are all stamped succeeds. -/
theorem Stamped.build_eq (h : site.Stamped site.pages tree after) :
    site.build tree =
      { outcome := .ok (), tree := after
        events := site.stampedEvents site.pages ++ [.complete site.pages.length] } := by
  have hrun := h.buildPages_append []
  rw [List.append_nil] at hrun
  rw [build, hrun]
  simp [buildPages]

/-- A build ends at the first page that fails, and keeps what is stamped in front of it. -/
theorem Stamped.build_eq_of_failed (h : site.Stamped front tree after)
    (hpages : site.pages = front ++ page :: behind)
    (hpage : Page.stamp site.directory site.template page after = (.error cause, after)) :
    site.build tree =
      { outcome := .error { page, cause }, tree := after
        events := site.stampedEvents front ++ [site.resolvedEvent page] } := by
  rw [build, hpages, h.buildPages_append (page :: behind), buildPages, hpage]

/-- The pages `completed` are those that a build stamps: all pages if it succeeds, and those
in front of the page that fails otherwise. -/
structure Completed (site : Site) (tree : FileTree) (completed : List Text) : Prop where
  stamped : site.Stamped completed tree (site.build tree).tree
  ends : match (site.build tree).outcome with
    | .ok () => site.pages = completed
    | .error error => ∃ behind, site.pages = completed ++ error.page :: behind ∧
        Page.stamp site.directory site.template error.page (site.build tree).tree =
          (.error error.cause, (site.build tree).tree)

/-- Every build stamps all pages, or those in front of one that fails. -/
theorem exists_completed (site : Site) (tree : FileTree) :
    ∃ completed, site.Completed tree completed := by
  obtain ⟨front, after, hfront, hends⟩ := site.exists_stamped site.pages tree
  refine ⟨front, ?_⟩
  obtain rfl | ⟨page, behind, cause, hpages, hpage⟩ := hends
  · have hbuild := hfront.build_eq
    exact ⟨by rwa [hbuild], by rw [hbuild]⟩
  · have hbuild := hfront.build_eq_of_failed hpages hpage
    exact ⟨by rwa [hbuild], by rw [hbuild]; exact ⟨behind, hpages, hpage⟩⟩

/-- A build succeeds if and only if all pages are stamped, and leaves the tree that they do. -/
theorem build_eq_ok_iff :
    ((site.build tree).outcome = .ok () ∧ (site.build tree).tree = after) ↔
      site.Stamped site.pages tree after := by
  constructor
  · rintro ⟨houtcome, rfl⟩
    obtain ⟨completed, hstamped, hends⟩ := site.exists_completed tree
    rw [houtcome] at hends
    rwa [← hends] at hstamped
  · intro h
    rw [h.build_eq]
    exact ⟨rfl, rfl⟩

namespace Completed

variable {completed : List Text}

theorem subset (h : site.Completed tree completed) : completed ⊆ site.pages := by
  have hends := h.ends
  split at hends
  · rw [hends]
    exact List.Subset.refl _
  · obtain ⟨behind, hpages, -⟩ := hends
    rw [hpages]
    exact List.subset_append_left _ _

theorem build_eq (h : site.Completed tree completed)
    (hother : site.Stamped completed other (site.build tree).tree) :
    site.build other = site.build tree := by
  obtain ⟨hstamped, hends⟩ := h
  split at hends
  · subst hends
    rw [hother.build_eq]
    exact hstamped.build_eq.symm
  · obtain ⟨behind, hpages, hpage⟩ := hends
    rw [hother.build_eq_of_failed hpages hpage]
    exact (hstamped.build_eq_of_failed hpages hpage).symm

end Completed

end Site

end SitePress
