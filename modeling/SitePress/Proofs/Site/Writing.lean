import Mathlib
import SitePress.Proofs.Files.Limits
import SitePress.Proofs.Site.Naming
import SitePress.Proofs.Site.Stages

/-!
# Why a page is not written

The path that a page is written to is never longer than that of its fragment, and no name
on it is longer than a name on the way to the fragment.  So once the fragment has been
read, only the directories of the tree can keep a page from being written.  A page whose
name has no slash is put next to its fragment, and then only a directory that already has
the name of the page's file can.
-/

namespace SitePress

/-! ## Joined paths -/

/-- What a directory puts in front of the paths that are joined to it does not depend on them. -/
theorem Path.exists_join_eq (directory : Text) :
    ∃ lead : Text, ∀ path : Text,
      join directory path = if isAbsolute path then path else lead ++ path := by
  unfold join
  by_cases hempty : directory = []
  · exact ⟨[], fun path => by simp [hempty]⟩
  by_cases hend : endsInSlash directory
  · exact ⟨directory, fun path => by simp [hempty, hend]⟩
  · exact ⟨directory ++ ['/'], fun path => by simp [hempty, hend]⟩

namespace Page

variable {directory template page text : Text} {tree : FileTree} {cause : FileError}

/-! ## The two paths of a page -/

private theorem utf8Size_endings :
    Text.utf8Size ".html".toList = 5 ∧ Text.utf8Size ".contents.html".toList = 14 :=
  ⟨by decide, by decide⟩

/-- Seen from the directory, no name on the way to a page is longer than some name on the way
to its fragment. -/
private theorem exists_longer_name (page : Text) {name : Text}
    (h : name ∈ Path.names (page ++ ".html".toList)) :
    ∃ longer ∈ Path.names ('_' :: page ++ ".contents.html".toList),
      Text.utf8Size name ≤ Text.utf8Size longer := by
  obtain ⟨houtput, hfragment⟩ := utf8Size_endings
  obtain ⟨front, last, rfl, hfront, hslash⟩ := Path.exists_last_part page
  have hlast := Site.plain_outputName hslash
  rw [List.append_assoc, Path.names_append_name hfront hlast.ne_nil hlast.slash,
    List.mem_append, List.mem_singleton] at h
  obtain rfl | ⟨up, rfl⟩ := hfront
  · -- the page is a single name
    have hsingle := Site.plain_fragmentName hslash
    obtain h | rfl := h
    · cases h
    · refine ⟨'_' :: last ++ ".contents.html".toList, ?_, ?_⟩
      · rw [List.nil_append, Path.names_eq_singleton hsingle.ne_nil hsingle.slash]
        exact List.mem_singleton_self _
      · simp only [Text.utf8Size_append, Text.utf8Size_cons, houtput, hfragment]
        omega
  · -- the underscore makes the first name longer, and the ending the last one
    have hending : '/' ∉ last ++ ".contents.html".toList := by simpa using hslash
    have hnames : Path.names ('_' :: (up ++ ['/'] ++ last) ++ ".contents.html".toList) =
        Path.names ('_' :: up) ++ [last ++ ".contents.html".toList] := by
      have hsplit : '_' :: (up ++ ['/'] ++ last) ++ ".contents.html".toList =
          '_' :: up ++ '/' :: (last ++ ".contents.html".toList) := by
        simp only [List.cons_append, List.append_assoc, List.nil_append]
      rw [hsplit, Path.names_append_slash, Path.names_eq_singleton (by simp) hending]
    rw [hnames]
    obtain h | rfl := h
    · rw [Path.names_append_slash, Path.names_nil, List.append_nil] at h
      obtain ⟨first, behind, hlonger, hshorter⟩ :=
        Path.exists_names_cons (c := '_') (by decide) up
      rw [hshorter, List.mem_append] at h
      obtain h | h := h
      · split at h
        · cases h
        · obtain rfl := List.mem_singleton.1 h
          refine ⟨'_' :: name, by simp [hlonger], ?_⟩
          rw [Text.utf8Size_cons]
          omega
      · exact ⟨name, by simp [hlonger, h], Nat.le_refl _⟩
    · refine ⟨_, List.mem_append_right _ (List.mem_singleton_self _), ?_⟩
      rw [Text.utf8Size_append, Text.utf8Size_append, houtput, hfragment]
      omega

/-- Both paths of a page are made up behind what the directory puts in front, except that an
absolute page goes without it. -/
private theorem exists_paths_eq (directory page : Text) :
    ∃ lead front, (front = [] ∨ front = lead) ∧
      fragmentPath directory page = lead ++ ('_' :: page ++ ".contents.html".toList) ∧
      outputPath directory page = front ++ (page ++ ".html".toList) := by
  obtain ⟨lead, hlead⟩ := Path.exists_join_eq directory
  have hfragment : fragmentPath directory page =
      lead ++ ('_' :: page ++ ".contents.html".toList) := by
    rw [fragmentPath, hlead]
    rfl
  by_cases habsolute : Path.isAbsolute (page ++ ".html".toList)
  · refine ⟨lead, [], .inl rfl, hfragment, ?_⟩
    rw [outputPath, hlead, if_pos habsolute]
    rfl
  · refine ⟨lead, lead, .inr rfl, hfragment, ?_⟩
    rw [outputPath, hlead, if_neg habsolute]

private theorem exists_longer_name_of_mem_outputPath {name : Text}
    (h : name ∈ Path.names (outputPath directory page)) :
    ∃ longer ∈ Path.names (fragmentPath directory page),
      Text.utf8Size name ≤ Text.utf8Size longer := by
  have hrelative : Path.isAbsolute ('_' :: page ++ ".contents.html".toList) = false := rfl
  rw [fragmentPath, Path.names_join_eq, hrelative]
  rw [outputPath, Path.names_join_eq, List.mem_append] at h
  obtain h | h := h
  · split at h
    · cases h
    · exact ⟨name, List.mem_append_left _ h, Nat.le_refl _⟩
  · obtain ⟨longer, hlonger, hle⟩ := exists_longer_name page h
    exact ⟨longer, List.mem_append_right _ hlonger, hle⟩

/-- The path of a page is within the limits if that of its fragment is. -/
theorem withinLimits_outputPath (h : FileTree.WithinLimits (fragmentPath directory page)) :
    FileTree.WithinLimits (outputPath directory page) := by
  obtain ⟨lead, front, hfront, hfragment, houtput⟩ := exists_paths_eq directory page
  have hnul := h.nul
  have hsize := h.size
  rw [hfragment] at hnul hsize
  refine ⟨?_, ?_, fun name hname => ?_⟩
  · have hending : '\x00' ∉ ".html".toList := by decide
    simp only [List.mem_append, List.mem_cons, not_or] at hnul
    obtain ⟨hnulLead, ⟨-, hnulPage⟩, -⟩ := hnul
    rw [houtput, List.mem_append, List.mem_append, not_or, not_or]
    refine ⟨?_, hnulPage, hending⟩
    obtain rfl | rfl := hfront
    · exact List.not_mem_nil
    · exact hnulLead
  · obtain ⟨houtputEnding, hfragmentEnding⟩ := utf8Size_endings
    have hshorter : Text.utf8Size front ≤ Text.utf8Size lead := by
      obtain rfl | rfl := hfront
      · exact Nat.zero_le _
      · exact Nat.le_refl _
    rw [Text.utf8Size_append, Text.utf8Size_append, Text.utf8Size_cons, hfragmentEnding] at hsize
    rw [houtput, Text.utf8Size_append, Text.utf8Size_append, houtputEnding]
    omega
  · obtain ⟨longer, hlonger, hle⟩ := exists_longer_name_of_mem_outputPath hname
    exact Nat.le_trans hle (h.names longer hlonger)

/-! ## Pages that are not written -/

/-- Once the fragment is read, only directories that are missing, or that are files, or one in
place of the file, keep a page from being written. -/
theorem write_outputPath_eq_error {fragment : Text}
    (hfragment : tree.read (fragmentPath directory page) = .ok fragment)
    (hcause : tree.write (outputPath directory page) text = .error cause) :
    cause = .notFound ∨ cause = .notADirectory ∨ cause = .isADirectory :=
  (withinLimits_outputPath (FileTree.withinLimits_of_read hfragment)).write_eq_error hcause

/-- Once the fragment is read, a page whose name has no slash can be looked up next to it. -/
theorem exists_resolve_outputPath {fragment : Text} (hslash : '/' ∉ page)
    (hfragment : tree.read (fragmentPath directory page) = .ok fragment) :
    ∃ location, tree.resolve (outputPath directory page) = .ok location := by
  have hfragmentName := Site.plain_fragmentName hslash
  have houtputName := Site.plain_outputName hslash
  obtain ⟨place, hplace, -⟩ :=
    FileTree.readBytes_eq_ok_iff.1 (FileTree.read_eq_ok_iff.1 hfragment)
  exact FileTree.exists_resolve_join hplace.resolve
    ⟨hfragmentName.ne_nil, hfragmentName.slash⟩ ⟨houtputName.ne_nil, houtputName.slash⟩
    (withinLimits_outputPath (FileTree.withinLimits_of_read hfragment))

theorem not_endsInSlash_outputPath (directory page : Text) :
    ¬ Path.endsInSlash (outputPath directory page) := by
  obtain ⟨-, front, -, -, houtput⟩ := exists_paths_eq directory page
  rw [houtput, ← List.append_assoc, Path.endsInSlash,
    List.getLast?_append_of_ne_nil _ (by decide)]
  decide

/-- Writing a page never fails for how its path is made up: it is not too long, holds no NUL and
is no matter of UTF-8.  If the name of the page has no slash, writing fails if and only if the
stages in front of it go well and a directory is where the page is to be written, and then
this is the cause. -/
theorem writeOutput_causes (directory template page : Text) (tree : FileTree) :
    (∀ path cause, (stamp directory template page tree).1 = .error (.writeOutput path cause) →
      cause ≠ .nameTooLong ∧ cause ≠ .nulInPath ∧ cause ≠ .notUtf8) ∧
    ('/' ∉ page → ∀ path cause,
      (stamp directory template page tree).1 = .error (.writeOutput path cause) ↔
        path = outputPath directory page ∧ cause = .isADirectory ∧
        (∃ fragment source text,
          tree.read (fragmentPath directory page) = .ok fragment ∧
          tree.read (templatePath directory template) = .ok source ∧
          Template.expand source (values page fragment) = .ok text) ∧
        ∃ location, tree.resolve (outputPath directory page) = .ok location ∧
          tree.find? location = some .directory) := by
  refine ⟨fun path cause h => ?_, fun hslash path cause => ?_⟩
  · obtain ⟨after, hends⟩ := outcome_stamp_eq_iff.1 h
    cases hends with
    | writeOutput hfragment _ _ hcause =>
      obtain rfl | rfl | rfl := write_outputPath_eq_error hfragment hcause <;> decide
  · have hasks := not_endsInSlash_outputPath directory page
    rw [outcome_stamp_eq_iff]
    constructor
    · rintro ⟨after, hends⟩
      cases hends with
      | writeOutput hfragment hsource htext hcause =>
        obtain ⟨location, hlocation⟩ := exists_resolve_outputPath hslash hfragment
        obtain ⟨rfl, hdirectory⟩ := (FileTree.write_eq_error_iff hlocation hasks).1 hcause
        exact ⟨rfl, rfl, ⟨_, _, _, hfragment, hsource, htext⟩, location, hlocation, hdirectory⟩
    · rintro ⟨rfl, rfl, ⟨fragment, source, text, hfragment, hsource, htext⟩, location, hlocation,
        hdirectory⟩
      have hcause : tree.write (outputPath directory page) text = .error .isADirectory :=
        (FileTree.write_eq_error_iff hlocation hasks).2 ⟨rfl, hdirectory⟩
      exact ⟨tree, .writeOutput hfragment hsource htext hcause⟩

/-! ## Directories in the way -/

/-- Where the page `t` is to be written there is a directory; the fragment of `a/b` is there, but
no directory for the page. -/
def obstructedFiles : FileTree :=
  let files := FileTree.folder [("k.html".toList, "[%(contents)s]".toList),
    ("_t.contents.html".toList, "x".toList)]
  ((files.set ["t.html".toList, "d".toList] .directory).set ["_a".toList, "d".toList]
    .directory).set ["b.contents.html".toList, "_a".toList, "d".toList]
      (.file (Text.encode "y".toList))

private theorem read_obstructed :
    obstructedFiles.read "d/_t.contents.html".toList = .ok "x".toList ∧
    obstructedFiles.read "d/k.html".toList = .ok "[%(contents)s]".toList :=
  ⟨by cbv, by cbv⟩

private theorem resolve_obstructed :
    obstructedFiles.resolve "d/t.html".toList = .ok ["t.html".toList, "d".toList] ∧
    obstructedFiles.find? ["t.html".toList, "d".toList] = some .directory :=
  ⟨by cbv, by cbv⟩

private theorem expand_obstructed :
    Template.expand "[%(contents)s]".toList (values "t".toList "x".toList) =
      .ok "[x]".toList := by
  cbv

private theorem outcome_obstructed :
    (stamp "d".toList "k.html".toList "a/b".toList obstructedFiles).1 =
      .error (.writeOutput "d/a/b.html".toList .notFound) := by
  cbv

/-- A directory in place of the page is the cause where there is one; for a page in another
directory it is that directory, and still not the name. -/
theorem writeOutput_causes_obstructed :
    (stamp "d".toList "k.html".toList "t".toList obstructedFiles).1 =
      .error (.writeOutput "d/t.html".toList .isADirectory) ∧
    ∃ cause, (stamp "d".toList "k.html".toList "a/b".toList obstructedFiles).1 =
        .error (.writeOutput "d/a/b.html".toList cause) ∧
      cause ≠ .nameTooLong ∧ cause ≠ .nulInPath ∧ cause ≠ .notUtf8 := by
  obtain ⟨hfragment, hsource⟩ := read_obstructed
  refine ⟨?_, .notFound, outcome_obstructed, (writeOutput_causes _ _ _ _).1 _ _ outcome_obstructed⟩
  exact ((writeOutput_causes _ _ _ _).2 (by decide) _ _).2
    ⟨rfl, rfl, ⟨_, _, _, hfragment, hsource, expand_obstructed⟩, _, resolve_obstructed⟩

end Page

end SitePress
