import Mathlib
import SitePress.Proofs.Site.Halting
import SitePress.Proofs.Site.Isolation

/-!
# The order of pages

In a site whose files do not collide, every page is stamped from what was there before the
build, and to a file of its own.  So what a build makes of a tree is decided by which pages
it has stamped, and not by their order, nor by how often each of them is listed; and a page
that can be stamped behind some pages can be stamped behind any others.
-/

namespace SitePress.Site

variable {site : Site} {pages done others : List Text} {initial tree other : FileTree}

namespace Progress

/-- The same pages make the same tree of the initial one. -/
theorem eq_of_mem_iff (h : site.Progress initial tree done)
    (hother : site.Progress initial other others) (hsame : ∀ page, page ∈ done ↔ page ∈ others) :
    tree = other := by
  ext1
  case hhere => exact h.directories.here.trans hother.directories.here.symm
  case hentry location =>
    -- a place that some page is written to holds its text, which comes from the initial tree
    by_cases hwritten :
        ∃ page ∈ done, initial.Denotes (Page.outputPath site.directory page) location
    · obtain ⟨page, hpage, hlocation⟩ := hwritten
      obtain ⟨text, place, htext, hplace, hfound⟩ := h.outputs page hpage
      obtain ⟨text', place', htext', hplace', hfound'⟩ :=
        hother.outputs page ((hsame page).1 hpage)
      obtain rfl := Except.ok.inj (htext.symm.trans htext')
      obtain rfl := hplace.unique hlocation
      obtain rfl := hplace'.unique hlocation
      rw [hfound, hfound']
    · have hothers : ∀ page ∈ done,
          ¬ initial.Denotes (Page.outputPath site.directory page) location :=
        fun page hpage hlocation => hwritten ⟨page, hpage, hlocation⟩
      rw [h.others location hothers,
        hother.others location fun page hpage => hothers page ((hsame page).2 hpage)]

/-- Pages that could each be stamped at first can be stamped one behind the other. -/
theorem exists_stamped (hfree : site.CollisionFree initial) (h : site.Progress initial tree done)
    (hpages : pages ⊆ site.pages)
    (hready : ∀ page ∈ pages, ∃ text location,
      Page.text site.directory site.template page initial = .ok text ∧
      initial.Denotes (Page.outputPath site.directory page) location) :
    ∃ after, site.Stamped pages tree after := by
  induction pages generalizing tree done with
  | nil => exact ⟨tree, .nil⟩
  | cons page pages ih =>
    obtain ⟨hpage, hpages⟩ := List.cons_subset.1 hpages
    obtain ⟨text, location, htext, hlocation⟩ := hready page List.mem_cons_self
    have hstamp := h.stamp_eq hfree hpage htext hlocation
    obtain ⟨after, hstamped⟩ := ih (h.stamp hfree hpage hstamp) hpages fun next hnext =>
      hready next (List.mem_cons_of_mem _ hnext)
    exact ⟨after, .cons hstamp hstamped⟩

end Progress

/-- If the files of a site do not collide and its build succeeds, then it succeeds for the same
pages in any order, and leaves the same tree. -/
theorem build_perm (site : Site) (tree : FileTree) (others : List Text)
    (hfree : site.CollisionFree tree) (hperm : site.pages.Perm others)
    (houtcome : (site.build tree).outcome = .ok ()) :
    ((site.withPages others).build tree).outcome = .ok () ∧
      ((site.withPages others).build tree).tree = (site.build tree).tree := by
  have hsubset : others ⊆ site.pages := hperm.symm.subset
  have hprogress := (build_eq_ok_iff.1 ⟨houtcome, rfl⟩).progress hfree (List.Subset.refl _)
  obtain ⟨after, hstamped⟩ :=
    (Progress.start site tree).exists_stamped hfree hsubset fun page hpage => by
      obtain ⟨text, location, htext, hlocation, -⟩ := hprogress.outputs page (hsubset hpage)
      exact ⟨text, location, htext, hlocation⟩
  have hsame : after = (site.build tree).tree :=
    (hstamped.progress hfree hsubset).eq_of_mem_iff hprogress fun page => hperm.mem_iff.symm
  rw [← hsame]
  exact build_withPages_eq_ok_iff.2 hstamped

/-- Of a page that is listed twice, a listing is moved behind another page. -/
theorem build_perm_draft :
    (draft.withPages ["b".toList, "a".toList, "b".toList]).CollisionFree draftFiles ∧
    ["b".toList, "a".toList, "b".toList].Perm ["a".toList, "b".toList, "b".toList] ∧
    ((draft.withPages ["b".toList, "a".toList, "b".toList]).build draftFiles).outcome =
      .ok () ∧
    ((draft.withPages ["a".toList, "b".toList, "b".toList]).build draftFiles).outcome =
      .ok () ∧
    ((draft.withPages ["a".toList, "b".toList, "b".toList]).build draftFiles).tree =
      ((draft.withPages ["b".toList, "a".toList, "b".toList]).build draftFiles).tree := by
  have hfree :
      (draft.withPages ["b".toList, "a".toList, "b".toList]).CollisionFree draftFiles := by
    refine collisionFree_of_names draftFiles (by decide) ⟨?_, rfl⟩
    exact ⟨by decide, by decide, by decide, by decide⟩
  have hperm : ["b".toList, "a".toList, "b".toList].Perm ["a".toList, "b".toList, "b".toList] :=
    .swap _ _ _
  have houtcome :
      ((draft.withPages ["b".toList, "a".toList, "b".toList]).build draftFiles).outcome =
        .ok () := by
    cbv
  exact ⟨hfree, hperm, houtcome, build_perm _ draftFiles _ hfree hperm houtcome⟩

end SitePress.Site
