import Mathlib
import SitePress.Files.Arrange
import SitePress.Proofs.Site.Collision
import SitePress.Proofs.Site.Stamping

/-!
# Pages do not disturb each other

The template and the fragments are read anew for every page, from a tree that the pages
in front of it have changed.  In a site whose files do not collide this makes no
difference: every page is stamped from what was there before the build, and the files
of the pages that were stamped are all that a build changes.  So a second build finds
what it would write already written, and ends as the first did, at the same page with
the same cause if that one failed.

## Main definitions

* `Site.Progress` — what stamping some pages has made of a tree.

## Main statements

* `Site.Progress.stamp`, `Site.Progress.stamped` — one page more, and any number of pages.
* `Site.build_isolated` — what a build makes of a tree.
* `Site.build_build` — building a second time.
-/

namespace SitePress.Site

variable {site : Site} {page path : Text} {pages done completed : List Text}
  {initial tree after : FileTree} {text : Text} {bytes : ByteArray}

/-! ## Stamping from the initial tree -/

/-- Some pages have been stamped from the tree `initial`, and this is all that has happened to
it: the file of each of them holds its text, which comes from the initial tree. -/
structure Progress (site : Site) (initial tree : FileTree) (done : List Text) : Prop where
  subset : done ⊆ site.pages
  directories : initial.SameDirectories tree
  outputs : ∀ page ∈ done, ∃ text location,
    Page.text site.directory site.template page initial = .ok text ∧
    initial.Denotes (Page.outputPath site.directory page) location ∧
    tree.find? location = some (.file (Text.encode text))
  others : ∀ location,
    (∀ page ∈ done, ¬ initial.Denotes (Page.outputPath site.directory page) location) →
    tree.find? location = initial.find? location

namespace Progress

theorem start (site : Site) (initial : FileTree) : site.Progress initial initial [] where
  subset := List.nil_subset _
  directories := .refl initial
  outputs := by simp
  others := fun _ _ => rfl

section

variable (hfree : site.CollisionFree initial)
include hfree

/-- The files that a build reads are still what they were. -/
theorem readBytes_input_iff (h : site.Progress initial tree done) (hpath : path ∈ site.inputPaths) :
    tree.readBytes path = .ok bytes ↔ initial.readBytes path = .ok bytes := by
  refine h.directories.readBytes_eq_ok_iff fun location hinput => h.others location ?_
  intro page hpage houtput
  exact hfree.inputs page (h.subset hpage) path hpath ⟨location, houtput, hinput⟩

theorem text_eq_ok_iff (h : site.Progress initial tree done) (hpage : page ∈ site.pages) :
    Page.text site.directory site.template page tree = .ok text ↔
      Page.text site.directory site.template page initial = .ok text := by
  have htemplate : Page.templatePath site.directory site.template ∈ site.inputPaths :=
    List.mem_cons_self
  have hfragment : Page.fragmentPath site.directory page ∈ site.inputPaths :=
    List.mem_cons_of_mem _ (List.mem_map_of_mem hpage)
  simp only [Page.text_eq_ok_iff, FileTree.read_eq_ok_iff,
    h.readBytes_input_iff hfree htemplate, h.readBytes_input_iff hfree hfragment]

/-- One page more is stamped as it would have been stamped at first. -/
theorem stamp (h : site.Progress initial tree done) (hpage : page ∈ site.pages)
    (hstamp : Page.stamp site.directory site.template page tree = (.ok (), after)) :
    site.Progress initial after (done ++ [page]) := by
  obtain ⟨text, location, htext, hlocation, rfl⟩ := Page.stamp_eq_ok_iff.1 hstamp
  have htext := (h.text_eq_ok_iff hfree hpage).1 htext
  have houtput := h.directories.denotes_iff.1 hlocation
  refine ⟨?_, h.directories.trans (.set_file hlocation.file _), ?_, ?_⟩
  · exact List.append_subset.2 ⟨h.subset, List.cons_subset.2 ⟨hpage, List.nil_subset _⟩⟩
  · intro other hother
    by_cases hsame : other = page
    · -- also when the page had been stamped before: its text is the same
      subst hsame
      exact ⟨text, location, htext, houtput, FileTree.find?_set_self ..⟩
    · have hother : other ∈ done := by simpa [hsame] using hother
      obtain ⟨earlier, place, hearlier, hplace, hfound⟩ := h.outputs other hother
      refine ⟨earlier, place, hearlier, hplace, ?_⟩
      rw [FileTree.find?_set, if_neg, hfound]
      rintro rfl
      exact hfree.outputs other (h.subset hother) page hpage hsame ⟨_, hplace, houtput⟩
  · intro place hplace
    rw [FileTree.find?_set, if_neg]
    · exact h.others place fun other hother => hplace other (List.mem_append_left _ hother)
    · rintro rfl
      exact hplace page (List.mem_append_right _ List.mem_cons_self) houtput

/-- Any number of pages is stamped as they would have been stamped at first. -/
theorem stamped (h : site.Progress initial tree done) (hpages : pages ⊆ site.pages)
    (hrun : site.Stamped pages tree after) : site.Progress initial after (done ++ pages) := by
  induction hrun generalizing done with
  | nil => rwa [List.append_nil]
  | cons hstamp _ ih =>
    obtain ⟨hpage, hpages⟩ := List.cons_subset.1 hpages
    rw [List.append_cons]
    exact ih (h.stamp hfree hpage hstamp) hpages

theorem stamp_eq (h : site.Progress initial tree done) (hpage : page ∈ site.pages)
    {location : Location}
    (htext : Page.text site.directory site.template page initial = .ok text)
    (hlocation : initial.Denotes (Page.outputPath site.directory page) location) :
    Page.stamp site.directory site.template page tree =
      (.ok (), tree.set location (.file (Text.encode text))) :=
  Page.stamp_eq_ok_iff.2 ⟨text, location, (h.text_eq_ok_iff hfree hpage).2 htext,
    h.directories.denotes_iff.2 hlocation, rfl⟩

/-- A page that has been stamped is stamped again without a change. -/
theorem stamp_again (h : site.Progress initial tree done) (hpage : page ∈ done) :
    Page.stamp site.directory site.template page tree = (.ok (), tree) := by
  obtain ⟨text, location, htext, hlocation, hfound⟩ := h.outputs page hpage
  rw [h.stamp_eq hfree (h.subset hpage) htext hlocation, FileTree.set_eq_self hfound]

theorem stamped_again (h : site.Progress initial tree done) (hpages : pages ⊆ done) :
    site.Stamped pages tree tree := by
  induction pages with
  | nil => exact .nil
  | cons page pages ih =>
    obtain ⟨hpage, hpages⟩ := List.cons_subset.1 hpages
    exact .cons (h.stamp_again hfree hpage) (ih hpages)

end

end Progress

theorem Stamped.progress (h : site.Stamped pages initial tree) (hfree : site.CollisionFree initial)
    (hpages : pages ⊆ site.pages) : site.Progress initial tree pages := by
  have hrun := (Progress.start site initial).stamped hfree hpages h
  rwa [List.nil_append] at hrun

theorem Completed.progress (h : site.Completed tree completed)
    (hfree : site.CollisionFree tree) :
    site.Progress tree (site.build tree).tree completed :=
  h.stamped.progress hfree h.subset

/-! ## A draft

A site whose build stops midway, behind a page that is listed twice. -/

/-- A site with a page that is listed twice and a page that has no fragment. -/
def draft : Site :=
  { directory := "d".toList, template := "_t".toList
    pages := ["b".toList, "a".toList, "b".toList, "c".toList] }

/-- The files of the draft, with an old file in the place of the page `b`. -/
def draftFiles : FileTree :=
  .folder [("_t".toList, "<%(title)s: %(contents)s>".toList),
    ("_a.contents.html".toList, "ü".toList), ("_b.contents.html".toList, "%(title)s".toList),
    ("b.html".toList, "old".toList)]

theorem collisionFree_draft {tree : FileTree} : draft.CollisionFree tree := by
  refine collisionFree_of_names tree (by decide) ⟨?_, rfl⟩
  exact ⟨by decide, by decide, by decide, by decide⟩

private theorem outcome_build_draft :
    (draft.build draftFiles).outcome = .error
      { page := "c".toList
        cause := .readFragment "d/_c.contents.html".toList .notFound } := by
  cbv

/-! ## Builds -/

/-- If the files of a site do not collide, then behind a build the file of each page that was
completed holds the text that template and fragment made before the build; the template and
the fragments read as they did; and whatever is elsewhere is what was there.  The files of
standard sites do not collide. -/
theorem build_isolated :
    (∀ (site : Site) (tree : FileTree), site.CollisionFree tree →
      ∃ completed, site.Completed tree completed ∧
        (∀ page ∈ completed, ∃ fragment source text,
          tree.read (Page.fragmentPath site.directory page) = .ok fragment ∧
          tree.read (Page.templatePath site.directory site.template) = .ok source ∧
          Template.expand source (Page.values page fragment) = .ok text ∧
          (site.build tree).tree.readBytes (Page.outputPath site.directory page) =
            .ok (Text.encode text)) ∧
        (∀ path ∈ site.inputPaths, ∀ bytes,
          (site.build tree).tree.readBytes path = .ok bytes ↔ tree.readBytes path = .ok bytes) ∧
        ∀ location,
          (∀ page ∈ completed, ¬ tree.Denotes (Page.outputPath site.directory page) location) →
          (site.build tree).tree.find? location = tree.find? location) ∧
    ∀ (directory : Text) (tree : FileTree), (standard directory).CollisionFree tree := by
  refine ⟨fun site tree hfree => ?_, collisionFree_standard⟩
  obtain ⟨completed, hcompleted⟩ := site.exists_completed tree
  have hprogress := hcompleted.progress hfree
  refine ⟨completed, hcompleted, fun page hpage => ?_, fun path hpath bytes => ?_,
    hprogress.others⟩
  · obtain ⟨text, location, htext, hlocation, hfound⟩ := hprogress.outputs page hpage
    obtain ⟨fragment, source, hfragment, hsource, hexpand⟩ := Page.text_eq_ok_iff.1 htext
    exact ⟨fragment, source, text, hfragment, hsource, hexpand, FileTree.readBytes_eq_ok_iff.2
      ⟨location, hprogress.directories.denotes_iff.2 hlocation, hfound⟩⟩
  · exact hprogress.readBytes_input_iff hfree hpath

/-- Of the draft, the page in front of the one that fails holds its own text, with the marker in
its fragment as it is, and the fragment is what it was. -/
theorem build_isolated_draft :
    draft.CollisionFree draftFiles ∧
    (draft.build draftFiles).outcome = .error
      { page := "c".toList
        cause := .readFragment "d/_c.contents.html".toList .notFound } ∧
    (draft.build draftFiles).tree.readBytes "d/b.html".toList =
      .ok (Text.encode "<b: %(title)s>".toList) ∧
    (draft.build draftFiles).tree.readBytes "d/_b.contents.html".toList =
      .ok (Text.encode "%(title)s".toList) := by
  obtain ⟨completed, hcompleted, hpages, hinputs, -⟩ :=
    build_isolated.1 draft draftFiles collisionFree_draft
  have hb : "b".toList ∈ completed := by
    have hends := hcompleted.ends
    rw [outcome_build_draft] at hends
    obtain ⟨behind, hsplit, -⟩ := hends
    cases completed with
    | nil => cases hsplit
    | cons first rest =>
      rw [← (List.cons_eq_cons.1 hsplit).1]
      exact List.mem_cons_self
  have hfragment : draftFiles.read "d/_b.contents.html".toList = .ok "%(title)s".toList := by
    cbv
  have hsource : draftFiles.read "d/_t".toList = .ok "<%(title)s: %(contents)s>".toList := by
    cbv
  have hexpand : Template.expand "<%(title)s: %(contents)s>".toList
      (Page.values "b".toList "%(title)s".toList) = .ok "<b: %(title)s>".toList := by
    cbv
  refine ⟨collisionFree_draft, outcome_build_draft, ?_, ?_⟩
  · obtain ⟨fragment, source, text, hread, hload, htext, houtput⟩ := hpages _ hb
    obtain rfl : fragment = "%(title)s".toList := Except.ok.inj (hread.symm.trans hfragment)
    obtain rfl : source = "<%(title)s: %(contents)s>".toList :=
      Except.ok.inj (hload.symm.trans hsource)
    rw [Except.ok.inj (htext.symm.trans hexpand)] at houtput
    exact houtput
  · exact (hinputs _ (by decide) _).2 (FileTree.read_eq_ok_iff.1 hfragment)

/-- If the files of a site do not collide, then a second build has the same outcome as the
first and reports the same, and leaves the tree as it finds it. -/
theorem build_build :
    (∀ (site : Site) (tree : FileTree), site.CollisionFree tree →
      site.build (site.build tree).tree = site.build tree) ∧
    ∀ (directory : Text) (tree : FileTree),
      (standard directory).build ((standard directory).build tree).tree =
        (standard directory).build tree := by
  have hagain (site : Site) (tree : FileTree) (hfree : site.CollisionFree tree) :
      site.build (site.build tree).tree = site.build tree := by
    obtain ⟨completed, hcompleted⟩ := site.exists_completed tree
    have hprogress := hcompleted.progress hfree
    exact hcompleted.build_eq (hprogress.stamped_again hfree (List.Subset.refl _))
  exact ⟨hagain, fun directory tree => hagain _ tree (collisionFree_standard directory tree)⟩

/-- The draft fails at the same page again; its first build had replaced an old file. -/
theorem build_build_draft :
    draft.CollisionFree draftFiles ∧
    draftFiles.readBytes "d/b.html".toList = .ok (Text.encode "old".toList) ∧
    (draft.build draftFiles).tree.readBytes "d/b.html".toList =
      .ok (Text.encode "<b: %(title)s>".toList) ∧
    draft.build (draft.build draftFiles).tree = draft.build draftFiles ∧
    (draft.build (draft.build draftFiles).tree).outcome = .error
      { page := "c".toList
        cause := .readFragment "d/_c.contents.html".toList .notFound } := by
  have hagain := build_build.1 draft draftFiles collisionFree_draft
  refine ⟨collisionFree_draft, ?_, ?_, hagain, ?_⟩
  · cbv
  · cbv
  · rw [hagain]
    exact outcome_build_draft

end SitePress.Site
