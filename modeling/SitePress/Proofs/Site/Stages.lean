import Mathlib
import SitePress.Files.Arrange
import SitePress.Proofs.Files.Denotation
import SitePress.Proofs.Template.Filling
import SitePress.Site.Page

/-!
# Stamping a page

A page is stamped in four stages: its fragment is read, then the template, then the
template is expanded, and then the page is written.  The first stage that fails decides
the error, whatever the later ones would have met, and leaves the tree as it is.  A page
that is written changes its own file and nothing else, also when this file is one that
has just been read.

## Main definitions

* `Page.Ends` — how stamping a page ends, stage by stage.

## Main statements

* `Page.stamp_eq_iff_ends` — all that stamping a page can do.
* `Page.stamp_all_or_nothing` — the error and the tree that stamping leaves.
-/

namespace SitePress

namespace Page

variable {directory template page text fragment key : Text} {tree after : FileTree}
  {outcome : Except PageError Unit} {cause : PageError}

/-! ## Values -/

theorem values_eq_none_iff :
    values page fragment key = none ↔ key ≠ "title".toList ∧ key ≠ "contents".toList := by
  simp [values, Values.ofList, List.lookup_eq_none_iff]

/-- In a template for pages, the first key without a value is the first one that is neither
`title` nor `contents`. -/
theorem firstMissing_values_iff {segments : Template} :
    segments.FirstMissing (values page fragment) key ↔
      ∃ (front : Template) (slot : Placeholder) (behind : Template),
        segments = front ++ .placeholder slot :: behind ∧ slot.key = key ∧
        (key ≠ "title".toList ∧ key ≠ "contents".toList) ∧
        ∀ earlier : Placeholder, .placeholder earlier ∈ front →
          earlier.key = "title".toList ∨ earlier.key = "contents".toList := by
  simp only [Template.FirstMissing, Ne, values_eq_none_iff, not_and_or, not_not]

/-- A template that does not expand for some page fails in the same way for every other. -/
theorem expand_values_eq_error {source : Text} {cause : TemplateError}
    (h : Template.expand source (values page fragment) = .error cause)
    (otherPage otherFragment : Text) :
    Template.expand source (values otherPage otherFragment) = .error cause :=
  Template.expand_eq_error_congr
    (fun _ _ _ _ => values_eq_none_iff.trans values_eq_none_iff.symm) h

/-! ## Stages -/

/-- How stamping a page ends, told from the files alone: a case for each stage that can fail
behind stages that went well, and one for a page that is written. -/
inductive Ends (directory template page : Text) (tree : FileTree) :
    Except PageError Unit → FileTree → Prop
  | readFragment {cause : FileError}
    (hcause : tree.read (fragmentPath directory page) = .error cause) :
    Ends directory template page tree
      (.error (.readFragment (fragmentPath directory page) cause)) tree
  | readTemplate {fragment : Text} {cause : FileError}
    (hfragment : tree.read (fragmentPath directory page) = .ok fragment)
    (hcause : tree.read (templatePath directory template) = .error cause) :
    Ends directory template page tree
      (.error (.readTemplate (templatePath directory template) cause)) tree
  | expandTemplate {fragment source : Text} {cause : TemplateError}
    (hfragment : tree.read (fragmentPath directory page) = .ok fragment)
    (hsource : tree.read (templatePath directory template) = .ok source)
    (hcause : Template.expand source (values page fragment) = .error cause) :
    Ends directory template page tree
      (.error (.expandTemplate (templatePath directory template) cause)) tree
  | writeOutput {fragment source text : Text} {cause : FileError}
    (hfragment : tree.read (fragmentPath directory page) = .ok fragment)
    (hsource : tree.read (templatePath directory template) = .ok source)
    (htext : Template.expand source (values page fragment) = .ok text)
    (hcause : tree.write (outputPath directory page) text = .error cause) :
    Ends directory template page tree
      (.error (.writeOutput (outputPath directory page) cause)) tree
  | written {fragment source text : Text} {location : Location}
    (hfragment : tree.read (fragmentPath directory page) = .ok fragment)
    (hsource : tree.read (templatePath directory template) = .ok source)
    (htext : Template.expand source (values page fragment) = .ok text)
    (hlocation : tree.Denotes (outputPath directory page) location) :
    Ends directory template page tree (.ok ()) (tree.set location (.file (Text.encode text)))

theorem Ends.stamp_eq (h : Ends directory template page tree outcome after) :
    stamp directory template page tree = (outcome, after) := by
  cases h with
  | readFragment hcause => simp [stamp, Page.text, hcause, Except.mapError, bind, Except.bind]
  | readTemplate hfragment hcause =>
    simp [stamp, Page.text, hfragment, hcause, Except.mapError, bind, Except.bind]
  | expandTemplate hfragment hsource hcause =>
    simp [stamp, Page.text, hfragment, hsource, hcause, Except.mapError, bind, Except.bind]
  | writeOutput hfragment hsource htext hcause =>
    simp [stamp, Page.text, hfragment, hsource, htext, hcause, Except.mapError, bind, Except.bind]
  | @written _ _ text location hfragment hsource htext hlocation =>
    have hwrite : tree.write (outputPath directory page) text =
        .ok (tree.set location (.file (Text.encode text))) :=
      FileTree.writeBytes_eq_ok_iff.2 ⟨location, hlocation, rfl⟩
    simp [stamp, Page.text, hfragment, hsource, htext, hwrite, Except.mapError, bind, Except.bind]

theorem exists_ends (directory template page : Text) (tree : FileTree) :
    ∃ outcome after, Ends directory template page tree outcome after := by
  cases hfragment : tree.read (fragmentPath directory page) with
  | error cause => exact ⟨_, _, .readFragment hfragment⟩
  | ok fragment =>
    cases hsource : tree.read (templatePath directory template) with
    | error cause => exact ⟨_, _, .readTemplate hfragment hsource⟩
    | ok source =>
      cases htext : Template.expand source (values page fragment) with
      | error cause => exact ⟨_, _, .expandTemplate hfragment hsource htext⟩
      | ok text =>
        cases hwrite : tree.write (outputPath directory page) text with
        | error cause => exact ⟨_, _, .writeOutput hfragment hsource htext hwrite⟩
        | ok after =>
          obtain ⟨location, hlocation, -⟩ := FileTree.writeBytes_eq_ok_iff.1 hwrite
          exact ⟨_, _, .written hfragment hsource htext hlocation⟩

/-- Stamping a page ends at the first stage that fails, or with the page written. -/
theorem stamp_eq_iff_ends :
    stamp directory template page tree = (outcome, after) ↔
      Ends directory template page tree outcome after := by
  refine ⟨fun h => ?_, Ends.stamp_eq⟩
  obtain ⟨found, left, hends⟩ := exists_ends directory template page tree
  obtain ⟨rfl, rfl⟩ := Prod.mk.inj (hends.stamp_eq.symm.trans h)
  exact hends

theorem outcome_stamp_eq_iff :
    (stamp directory template page tree).1 = outcome ↔
      ∃ after, Ends directory template page tree outcome after := by
  simp [← stamp_eq_iff_ends, Prod.ext_iff]

/-! ## Pages that are written -/

/-- The text of a page is the template, with the name of the page as its title and the
fragment as its contents. -/
theorem text_eq_ok_iff :
    Page.text directory template page tree = .ok text ↔
      ∃ fragment source,
        tree.read (fragmentPath directory page) = .ok fragment ∧
        tree.read (templatePath directory template) = .ok source ∧
        Template.expand source (values page fragment) = .ok text := by
  simp only [Page.text, except_bind_eq_ok_iff, except_mapError_eq_ok_iff, exists_and_left]

/-- A page is stamped by writing its text to its file. -/
theorem stamp_eq_ok_iff :
    stamp directory template page tree = (.ok (), after) ↔
      ∃ text location, Page.text directory template page tree = .ok text ∧
        tree.Denotes (outputPath directory page) location ∧
        after = tree.set location (.file (Text.encode text)) := by
  rw [stamp_eq_iff_ends]
  constructor
  · rintro (_ | _ | _ | _ | ⟨hfragment, hsource, htext, hlocation⟩)
    exact ⟨_, _, text_eq_ok_iff.2 ⟨_, _, hfragment, hsource, htext⟩, hlocation, rfl⟩
  · rintro ⟨text, location, htext, hlocation, rfl⟩
    obtain ⟨fragment, source, hfragment, hsource, hexpand⟩ := text_eq_ok_iff.1 htext
    exact .written hfragment hsource hexpand hlocation

theorem eq_of_stamp_eq_error (h : stamp directory template page tree = (.error cause, after)) :
    after = tree := by
  cases stamp_eq_iff_ends.1 h <;> rfl

/-! ## Errors and trees -/

/-- Stamping a page ends at the first stage that fails, with its error and the tree as it was;
or it ends with the file of the page holding the page's text, however that file is named, and
everything else as it was.  A key without a value is reported if and only if both files are
read, the template has no fault, and the key is the first in it that is neither `title` nor
`contents`. -/
theorem stamp_all_or_nothing (directory template page : Text) (tree : FileTree) :
    (∀ outcome after, stamp directory template page tree = (outcome, after) ↔
      Ends directory template page tree outcome after) ∧
    (∀ cause after, stamp directory template page tree = (.error cause, after) → after = tree) ∧
    (∀ after, stamp directory template page tree = (.ok (), after) →
      ∃ fragment source text location,
        tree.read (fragmentPath directory page) = .ok fragment ∧
        tree.read (templatePath directory template) = .ok source ∧
        Template.expand source (values page fragment) = .ok text ∧
        tree.Denotes (outputPath directory page) location ∧
        (∀ path, tree.Denotes path location → after.readBytes path = .ok (Text.encode text)) ∧
        after.here = tree.here ∧
        ∀ other, other ≠ location → after.find? other = tree.find? other) ∧
    ∀ path key,
      (stamp directory template page tree).1 =
          .error (.expandTemplate path (.missing { key })) ↔
        path = templatePath directory template ∧
        ∃ fragment source segments,
          tree.read (fragmentPath directory page) = .ok fragment ∧
          tree.read (templatePath directory template) = .ok source ∧
          Template.parse source = .ok segments ∧
          ∃ (front : Template) (slot : Placeholder) (behind : Template),
            segments = front ++ .placeholder slot :: behind ∧ slot.key = key ∧
            (key ≠ "title".toList ∧ key ≠ "contents".toList) ∧
            ∀ earlier : Placeholder, .placeholder earlier ∈ front →
              earlier.key = "title".toList ∨ earlier.key = "contents".toList := by
  refine ⟨fun outcome after => stamp_eq_iff_ends, fun cause after => eq_of_stamp_eq_error,
    fun after h => ?_, fun path key => ?_⟩
  · cases stamp_eq_iff_ends.1 h with
    | @written fragment source text location hfragment hsource htext hlocation =>
      have hdirectories := FileTree.SameDirectories.set_file hlocation.file (Text.encode text)
      refine ⟨fragment, source, text, location, hfragment, hsource, htext, hlocation,
        fun path hpath => ?_, rfl, fun other hother => ?_⟩
      · exact FileTree.readBytes_eq_ok_iff.2
          ⟨location, hdirectories.denotes_iff.2 hpath, FileTree.find?_set_self ..⟩
      · rw [FileTree.find?_set, if_neg hother.symm]
  · rw [outcome_stamp_eq_iff]
    constructor
    · rintro ⟨after, hends⟩
      cases hends with
      | expandTemplate hfragment hsource hcause =>
        obtain ⟨segments, hparse, hmissing⟩ := Template.expand_eq_missing_iff.1 hcause
        exact ⟨rfl, _, _, segments, hfragment, hsource, hparse,
          firstMissing_values_iff.1 hmissing⟩
    · rintro ⟨rfl, fragment, source, segments, hfragment, hsource, hparse, hmissing⟩
      exact ⟨tree, .expandTemplate hfragment hsource
        (Template.expand_eq_missing_iff.2 ⟨segments, hparse, firstMissing_values_iff.2 hmissing⟩)⟩

end Page

/-! ## A page over its template -/

namespace Page

/-- The page `t` is written over the template `t.html`; in the template `k.html` two keys are
without a value. -/
def overlaidFiles : FileTree :=
  .folder [("t.html".toList, "[%(contents)s]".toList),
    ("_t.contents.html".toList, "%(title)s".toList),
    ("k.html".toList, "%(title)s%(x)r%(y)s".toList)]

private theorem read_overlaid :
    overlaidFiles.read "d/_t.contents.html".toList = .ok "%(title)s".toList ∧
    overlaidFiles.read "d/t.html".toList = .ok "[%(contents)s]".toList ∧
    overlaidFiles.read "d/k.html".toList = .ok "%(title)s%(x)r%(y)s".toList ∧
    overlaidFiles.read "d/_u.contents.html".toList = .error .notFound :=
  ⟨by cbv, by cbv, by cbv, by cbv⟩

private theorem outcome_overlaid :
    (stamp "d".toList "t.html".toList "t".toList overlaidFiles).1 = .ok () := by
  cbv

private theorem parse_overlaid :
    Template.parse "%(title)s%(x)r%(y)s".toList =
      .ok [.placeholder ⟨"title".toList, ⟨false, none, none⟩, .plain⟩,
        .placeholder ⟨['x'], ⟨false, none, none⟩, .quoted⟩,
        .placeholder ⟨['y'], ⟨false, none, none⟩, .plain⟩] := by
  cbv

private theorem expand_overlaid :
    Template.expand "[%(contents)s]".toList (values "t".toList "%(title)s".toList) =
      .ok "[%(title)s]".toList := by
  cbv

/-- The template holds the text of the page afterwards; of a fragment and a template that are
both missing, the fragment is reported; and of two keys without a value, the first is. -/
theorem stamp_all_or_nothing_overlaid :
    (∃ after, stamp "d".toList "t.html".toList "t".toList overlaidFiles = (.ok (), after) ∧
      after.readBytes (templatePath "d".toList "t.html".toList) =
        .ok (Text.encode "[%(title)s]".toList)) ∧
    stamp "d".toList "v.html".toList "u".toList overlaidFiles =
      (.error (.readFragment "d/_u.contents.html".toList .notFound), overlaidFiles) ∧
    (stamp "d".toList "k.html".toList "t".toList overlaidFiles).1 =
      .error (.expandTemplate "d/k.html".toList (.missing { key := "x".toList })) := by
  obtain ⟨hfragment, hsource, hkeys, hmissing⟩ := read_overlaid
  refine ⟨⟨_, Prod.ext outcome_overlaid rfl, ?_⟩, ?_, ?_⟩
  · obtain ⟨fragment, source, text, location, hread, hload, htext, hlocation, houtput, -⟩ :=
      (stamp_all_or_nothing _ _ _ _).2.2.1 _ (Prod.ext outcome_overlaid rfl)
    obtain rfl : fragment = "%(title)s".toList := Except.ok.inj (hread.symm.trans hfragment)
    obtain rfl : source = "[%(contents)s]".toList := Except.ok.inj (hload.symm.trans hsource)
    obtain rfl : text = "[%(title)s]".toList := Except.ok.inj (htext.symm.trans expand_overlaid)
    exact houtput _ hlocation
  · exact ((stamp_all_or_nothing _ _ _ _).1 _ _).2 (.readFragment hmissing)
  · refine ((stamp_all_or_nothing _ _ _ _).2.2.2 _ _).2
      ⟨rfl, _, _, _, hfragment, hkeys, parse_overlaid, [_], _, _, rfl, rfl, by decide, ?_⟩
    rintro earlier hearlier
    obtain rfl : earlier = ⟨"title".toList, ⟨false, none, none⟩, .plain⟩ := by
      simpa using hearlier
    exact .inl rfl

end Page

end SitePress
