import SitePress.Proofs.Files.Denotation
import SitePress.Site.Build

/-!
# Sites whose files do not collide

A build reads and writes files of one tree.  It reads what was there before it if no
page is written over the template or over a fragment, and if no page is written over
another one.  Whether two paths mean one file depends on the tree in general, but names
without slashes that differ mean different files in every directory of every tree.

## Main definitions

* `Site.CollisionFree` — that pages are written to files of their own.

## Main statements

* `Site.collisionFree_standard` — standard sites do not collide in any directory.
-/

namespace SitePress

variable {tree : FileTree} {directory name other : Text}

/-! ## Names in a directory -/

theorem Path.Plain.locate_join (h : Path.Plain name) (tree : FileTree) (directory : Text) :
    tree.locate (Path.join directory name) = name :: tree.locate directory := by
  rw [tree.locate_join directory h.ne_nil h.slash, Location.follow, if_neg h.dot, if_neg h.dots]

theorem Path.Plain.eq_of_sameFile (h : Path.Plain name) (hother : Path.Plain other)
    (hsame : tree.SameFile (Path.join directory name) (Path.join directory other)) :
    name = other := by
  obtain ⟨location, hname, hlocation⟩ := hsame
  have heq := hname.eq_locate.symm.trans hlocation.eq_locate
  rw [h.locate_join, hother.locate_join] at heq
  exact (List.cons_eq_cons.1 heq).1

/-! ## Sites -/

namespace Site

variable {site : Site}

/-- No page is written to a file that the build reads, and pages of different names are written
to different files. -/
structure CollisionFree (site : Site) (tree : FileTree) : Prop where
  inputs : ∀ page ∈ site.pages, ∀ path ∈ site.inputPaths,
    ¬ tree.SameFile (Page.outputPath site.directory page) path
  outputs : ∀ page ∈ site.pages, ∀ other ∈ site.pages, page ≠ other →
    ¬ tree.SameFile (Page.outputPath site.directory page) (Page.outputPath site.directory other)

theorem plain_outputName {page : Text} (hslash : '/' ∉ page) :
    Path.Plain (page ++ ".html".toList) := by
  refine Path.plain_of_length ?_ ?_
  · simpa using hslash
  · simp

theorem plain_fragmentName {page : Text} (hslash : '/' ∉ page) :
    Path.Plain ('_' :: page ++ ".contents.html".toList) := by
  refine Path.plain_of_length ?_ ?_
  · simpa using hslash
  · simp

private theorem head?_outputName {page : Text} (hhead : page.head? ≠ some '_') :
    (page ++ ".html".toList).head? ≠ some '_' := by
  cases page with
  | nil => decide
  | cons c page => exact hhead

/-- Pages whose names have no slash and do not start with an underscore are written to files
of their own when the name of the template starts with one, as those of the fragments do. -/
theorem collisionFree_of_names (tree : FileTree)
    (hpages : ∀ page ∈ site.pages, '/' ∉ page ∧ page.head? ≠ some '_')
    (htemplate : Path.Plain site.template ∧ site.template.head? = some '_') :
    site.CollisionFree tree where
  inputs := by
    intro page hpage path hpath hsame
    obtain ⟨hslash, hhead⟩ := hpages page hpage
    have hoff := head?_outputName hhead
    rcases List.mem_cons.1 hpath with rfl | hpath
    · rw [(plain_outputName hslash).eq_of_sameFile htemplate.1 hsame] at hoff
      exact hoff htemplate.2
    · obtain ⟨other, hother, rfl⟩ := List.mem_map.1 hpath
      have hfragment := plain_fragmentName (hpages other hother).1
      rw [(plain_outputName hslash).eq_of_sameFile hfragment hsame] at hoff
      exact hoff rfl
  outputs := by
    intro page hpage other hother hne hsame
    have heq := (plain_outputName (hpages page hpage).1).eq_of_sameFile
      (plain_outputName (hpages other hother).1) hsame
    exact hne (List.append_cancel_right heq)

/-- In every directory of every tree, a standard site writes its pages to files of their own. -/
theorem collisionFree_standard (directory : Text) (tree : FileTree) :
    (standard directory).CollisionFree tree := by
  refine collisionFree_of_names tree ?_ ⟨Path.plain_of_length ?_ ?_, ?_⟩
  · change ∀ page ∈ standardPages, _
    decide
  · change '/' ∉ standardTemplate
    decide
  · change 2 < standardTemplate.length
    decide
  · rfl

end Site

end SitePress
