import SitePress.Proofs.Site.Collision

/-!
# How the files of pages are named

The file of a page and its fragment end in names that differ, so no page is written over
the fragment that it is stamped from, even if the name of the page leads into another
directory or away from the site.  Of different pages, one can be written over the fragment
of the other, or over the template: among names without slash this is decided by the names
alone, in the same way in every directory.
-/

namespace SitePress

/-! ## Names in one directory -/

namespace Path

variable {front name other path : Text} {p q : Prop}

/-- Two paths are one if and only if `p`: they are equal texts in this case, and in any other
case they mean different places in every tree. -/
structure SameIff (path other : Text) (p : Prop) : Prop where
  text : path = other ↔ p
  place : ∀ tree : FileTree, tree.locate path = tree.locate other ↔ p

theorem SameIff.congr (h : SameIff path other p) (hp : p ↔ q) : SameIff path other q where
  text := h.text.trans hp
  place := fun tree => (h.place tree).trans hp

theorem Plain.sameIff_join (h : Plain name) (hother : Plain other) (directory : Text) :
    SameIff (join directory name) (join directory other) (name = other) := by
  have hplace {tree : FileTree}
      (heq : tree.locate (join directory name) = tree.locate (join directory other)) :
      name = other := by
    rw [h.locate_join, hother.locate_join] at heq
    exact (List.cons_eq_cons.1 heq).1
  refine ⟨⟨fun htext => ?_, congrArg _⟩, fun tree => ⟨hplace, fun hname => by rw [hname]⟩⟩
  have hnames : names (join directory name) = names (join directory other) := by rw [htext]
  rw [names_join directory h.ne_nil h.slash, names_join directory hother.ne_nil hother.slash]
    at hnames
  exact List.singleton_inj.1 (List.append_cancel_left hnames)

/-! ## The last name -/

/-- A name behind a slash, or behind nothing, is the last name of its path. -/
theorem names_append_name (hfront : front = [] ∨ ∃ up, front = up ++ ['/']) (hne : name ≠ [])
    (hslash : '/' ∉ name) : names (front ++ name) = names front ++ [name] := by
  obtain rfl | ⟨up, rfl⟩ := hfront
  · rw [List.nil_append, names_eq_singleton hne hslash]
    rfl
  · rw [List.append_assoc, List.singleton_append, names_append_slash, names_append_slash,
      names_eq_singleton hne hslash, names_nil, List.append_nil]

theorem getLast?_names_join (directory : Text) (hfront : front = [] ∨ ∃ up, front = up ++ ['/'])
    (hne : name ≠ []) (hslash : '/' ∉ name) :
    (names (join directory (front ++ name))).getLast? = some name := by
  rw [names_join_eq, names_append_name hfront hne hslash, ← List.append_assoc,
    List.getLast?_concat]

/-- A path whose last name leads down means a place of that name. -/
theorem Plain.exists_locate_eq (h : Plain name) (hlast : (names path).getLast? = some name)
    (tree : FileTree) : ∃ up, tree.locate path = name :: up := by
  obtain ⟨above, hnames⟩ := List.getLast?_eq_some_iff.1 hlast
  refine ⟨above.foldl Location.follow (tree.start path), ?_⟩
  rw [FileTree.locate, hnames, List.foldl_append, List.foldl_cons, List.foldl_nil,
    Location.follow, if_neg h.dot, if_neg h.dots]

end Path

/-! ## Pages and their own fragments -/

namespace Page

/-- The paths of a fragment and of its page end in names that lead down, and the name of the
fragment is the longer one, whatever the name of the page is. -/
theorem exists_last_names (directory page : Text) :
    ∃ fragmentName outputName,
      (Path.names (fragmentPath directory page)).getLast? = some fragmentName ∧
      (Path.names (outputPath directory page)).getLast? = some outputName ∧
      Path.Plain fragmentName ∧ Path.Plain outputName ∧
      outputName.length < fragmentName.length := by
  obtain ⟨front, last, rfl, hfront, hslash⟩ := Path.exists_last_part page
  have houtput := Site.plain_outputName hslash
  have houtputLast : (Path.names (outputPath directory (front ++ last))).getLast? =
      some (last ++ ".html".toList) := by
    rw [outputPath, List.append_assoc]
    exact Path.getLast?_names_join directory hfront houtput.ne_nil houtput.slash
  obtain rfl | ⟨up, rfl⟩ := hfront
  · -- the page is a single name, and the underscore is put in front of it
    have hfragment := Site.plain_fragmentName hslash
    have hlast : (Path.names (fragmentPath directory last)).getLast? =
        some ('_' :: last ++ ".contents.html".toList) :=
      Path.getLast?_names_join directory (.inl rfl) hfragment.ne_nil hfragment.slash
    exact ⟨_, _, hlast, houtputLast, hfragment, houtput, by simp⟩
  · -- the underscore is put in front of an earlier part of the page
    have hfragment : Path.Plain (last ++ ".contents.html".toList) :=
      Path.plain_of_length (by simpa using hslash) (by simp)
    have hlast : (Path.names (fragmentPath directory (up ++ ['/'] ++ last))).getLast? =
        some (last ++ ".contents.html".toList) := by
      have hjoin := Path.getLast?_names_join directory (.inr ⟨'_' :: up, rfl⟩) hfragment.ne_nil
        hfragment.slash
      rw [← List.append_assoc] at hjoin
      exact hjoin
    exact ⟨_, _, hlast, houtputLast, hfragment, houtput, by simp⟩

/-- A page is not written over its own fragment. -/
theorem not_sameFile_fragment (tree : FileTree) (directory page : Text) :
    ¬ tree.SameFile (fragmentPath directory page) (outputPath directory page) := by
  rintro ⟨location, hfragment, houtput⟩
  obtain ⟨fragmentName, outputName, hfragmentLast, houtputLast, hfragmentPlain, houtputPlain,
    hlength⟩ := exists_last_names directory page
  obtain ⟨up, hup⟩ := hfragmentPlain.exists_locate_eq hfragmentLast tree
  obtain ⟨above, habove⟩ := houtputPlain.exists_locate_eq houtputLast tree
  have hnames := (hup.symm.trans hfragment.eq_locate.symm).trans (houtput.eq_locate.trans habove)
  rw [(List.cons_eq_cons.1 hnames).1] at hlength
  exact Nat.lt_irrefl _ hlength

/-! ## Pages and each other -/

variable {page other : Text}

theorem outputName_eq_fragmentName_iff :
    page ++ ".html".toList = '_' :: other ++ ".contents.html".toList ↔
      page = '_' :: other ++ ".contents".toList := by
  have hending : ".contents.html".toList = ".contents".toList ++ ".html".toList := by decide
  rw [hending, ← List.append_assoc, List.append_left_inj]

theorem outputName_eq_standardTemplate_iff :
    page ++ ".html".toList = Site.standardTemplate ↔ page = "_template".toList := by
  have hending : Site.standardTemplate = "_template".toList ++ ".html".toList := by decide
  rw [hending, List.append_left_inj]

/-- A page and its fragment end in different names and are no one file in any tree, whatever
the name of the page is.  For pages whose names have no slash, in every directory: the
fragments of two pages are one only if the pages are; so are the files that they are written
to; a page is written over the fragment of another only if its name is that of the fragment
without its ending, and over the standard template only if it is called after it. -/
theorem names_collide_iff (directory : Text) :
    (∀ page : Text,
      (∃ fragmentName outputName,
        (Path.names (fragmentPath directory page)).getLast? = some fragmentName ∧
        (Path.names (outputPath directory page)).getLast? = some outputName ∧
        fragmentName ≠ outputName) ∧
      ∀ tree : FileTree,
        ¬ tree.SameFile (fragmentPath directory page) (outputPath directory page)) ∧
    ∀ page other : Text, '/' ∉ page → '/' ∉ other →
      Path.SameIff (fragmentPath directory page) (fragmentPath directory other)
        (page = other) ∧
      Path.SameIff (outputPath directory page) (outputPath directory other)
        (page = other) ∧
      Path.SameIff (outputPath directory page) (fragmentPath directory other)
        (page = '_' :: other ++ ".contents".toList) ∧
      Path.SameIff (outputPath directory page) (templatePath directory Site.standardTemplate)
        (page = "_template".toList) := by
  refine ⟨fun page => ⟨?_, fun tree => not_sameFile_fragment tree directory page⟩,
    fun page other hpage hother => ⟨?_, ?_, ?_, ?_⟩⟩
  · obtain ⟨fragmentName, outputName, hfragment, houtput, -, -, hlength⟩ :=
      exists_last_names directory page
    refine ⟨fragmentName, outputName, hfragment, houtput, ?_⟩
    rintro rfl
    exact Nat.lt_irrefl _ hlength
  · have hnames := (Site.plain_fragmentName hpage).sameIff_join (Site.plain_fragmentName hother)
      directory
    exact hnames.congr (by rw [List.append_left_inj, List.cons_inj_right])
  · have hnames := (Site.plain_outputName hpage).sameIff_join (Site.plain_outputName hother)
      directory
    exact hnames.congr (List.append_left_inj _)
  · have hnames := (Site.plain_outputName hpage).sameIff_join (Site.plain_fragmentName hother)
      directory
    exact hnames.congr outputName_eq_fragmentName_iff
  · have htemplate : Path.Plain Site.standardTemplate :=
      Path.plain_of_length (by decide) (by decide)
    have hnames := (Site.plain_outputName hpage).sameIff_join htemplate directory
    exact hnames.congr outputName_eq_standardTemplate_iff

/-- In an absolute directory the page `_a.contents` is written over the fragment of `a`, and in
every tree, while the page `_a` is not. -/
theorem names_collide_iff_overwritten :
    outputPath "/s/".toList "_a.contents".toList = fragmentPath "/s/".toList "a".toList ∧
    (∀ tree : FileTree, tree.locate (outputPath "/s/".toList "_a".toList) ≠
      tree.locate (fragmentPath "/s/".toList "a".toList)) ∧
    outputPath "/s/".toList "_template".toList =
      templatePath "/s/".toList Site.standardTemplate := by
  have hcollide := (names_collide_iff "/s/".toList).2
  obtain ⟨-, -, hfragment, -⟩ := hcollide "_a.contents".toList "a".toList (by decide) (by decide)
  obtain ⟨-, -, hother, -⟩ := hcollide "_a".toList "a".toList (by decide) (by decide)
  obtain ⟨-, -, -, htemplate⟩ := hcollide "_template".toList "a".toList (by decide) (by decide)
  refine ⟨hfragment.text.2 (by decide), fun tree hplace => ?_, htemplate.text.2 rfl⟩
  exact absurd ((hother.place tree).1 hplace) (by decide)

end Page

end SitePress
