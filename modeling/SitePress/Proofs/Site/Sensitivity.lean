import Mathlib
import SitePress.Proofs.Site.Halting
import SitePress.Proofs.Site.Isolation
import SitePress.Proofs.Template.Sensitivity

/-!
# Pages change with their fragments

What can be told from the text of a template can be told from the file of a page: if the
template shows all of the contents somewhere, then a page whose fragment has changed is
written differently.  For a page that is stamped by itself this needs nothing else; in a
build, the fragment and the template that the page is stamped from are those that were
there before the build only if the files of the site do not collide.
-/

namespace SitePress

/-! ## Expanding -/

namespace Template

/-- The text is a template in which the key is named, and shown in full wherever it is. -/
def Shows (t key : Text) : Prop :=
  ∃ segments : Template, parse t = .ok segments ∧ segments.Names key ∧ segments.ShowsInFull key

theorem expand_eq_ok_iff {t text : Text} {segments : Template} {values : Values}
    (hparse : parse t = .ok segments) :
    expand t values = .ok text ↔ fill values segments = .ok text := by
  rw [expand_of_parse hparse, except_mapError_eq_ok_iff]

theorem Shows.eq_of_expand_eq {t key value other text : Text} {values valuesOther : Values}
    (h : Shows t key) (hsame : values.AgreeOff valuesOther key)
    (hvalue : values key = some value) (hother : valuesOther key = some other)
    (hexpand : expand t values = .ok text) (hexpandOther : expand t valuesOther = .ok text) :
    value = other := by
  obtain ⟨segments, hparse, hnames, hfull⟩ := h
  exact eq_of_fill_eq hsame hvalue hother hnames hfull ((expand_eq_ok_iff hparse).1 hexpand)
    ((expand_eq_ok_iff hparse).1 hexpandOther)

end Template

/-! ## Pages -/

namespace Page

theorem values_contents (page fragment : Text) :
    values page fragment "contents".toList = some fragment := rfl

theorem agreeOff_values (page fragment fragmentOther : Text) :
    (values page fragment).AgreeOff (values page fragmentOther) "contents".toList := by
  intro key hkey
  have hcontents : (key == "contents".toList) = false := beq_false_of_ne hkey
  simp only [values, Values.ofList, List.lookup, hcontents]

/-- Different fragments make different pages of a template that shows the contents. -/
theorem text_ne {directory template page source text textOther : Text} {tree other : FileTree}
    (hshows : Template.Shows source "contents".toList)
    (hsource : tree.read (templatePath directory template) = .ok source)
    (hsourceOther : other.read (templatePath directory template) = .ok source)
    (htext : Page.text directory template page tree = .ok text)
    (htextOther : Page.text directory template page other = .ok textOther)
    (hne : tree.read (fragmentPath directory page) ≠ other.read (fragmentPath directory page)) :
    text ≠ textOther := by
  obtain ⟨fragment, found, hfragment, hfound, hexpand⟩ := text_eq_ok_iff.1 htext
  obtain ⟨fragmentOther, foundOther, hfragmentOther, hfoundOther, hexpandOther⟩ :=
    text_eq_ok_iff.1 htextOther
  obtain rfl := Except.ok.inj (hfound.symm.trans hsource)
  obtain rfl := Except.ok.inj (hfoundOther.symm.trans hsourceOther)
  rintro rfl
  have heq := hshows.eq_of_expand_eq (agreeOff_values page fragment fragmentOther)
    (values_contents ..) (values_contents ..) hexpand hexpandOther
  rw [hfragment, hfragmentOther, heq] at hne
  exact hne rfl

theorem read_of_stamp {directory template page : Text} {tree after : FileTree}
    (h : stamp directory template page tree = (.ok (), after)) :
    ∃ text, Page.text directory template page tree = .ok text ∧
      after.read (outputPath directory page) = .ok text := by
  obtain ⟨text, location, htext, hlocation, rfl⟩ := stamp_eq_ok_iff.1 h
  have hdirectories := FileTree.SameDirectories.set_file hlocation.file (Text.encode text)
  have hafter := hdirectories.denotes_iff.2 hlocation
  exact ⟨text, htext, hafter.read_eq (FileTree.find?_set_self ..)⟩

end Page

/-- A page that a build completes can be read behind it, and is the text that would have been
stamped before it. -/
theorem Site.Progress.read_output {site : Site} {initial tree : FileTree} {done : List Text}
    {page : Text} (h : site.Progress initial tree done) (hpage : page ∈ done) :
    ∃ text, Page.text site.directory site.template page initial = .ok text ∧
      tree.read (Page.outputPath site.directory page) = .ok text := by
  obtain ⟨text, location, htext, hlocation, hfound⟩ := h.outputs page hpage
  exact ⟨text, htext, (h.directories.denotes_iff.2 hlocation).read_eq hfound⟩

/-! ## Changes -/

/-- If two kinds of values differ in one key, and a template names the key and shows it in full
wherever it does, then it expands to different texts with them.  So a page is stamped
differently from a fragment that has changed, by itself, or in builds of a site whose files do
not collide. -/
theorem text_changes_with_value :
    (∀ (t key : Text) (segments : Template) (values other : Values),
      Template.parse t = .ok segments → segments.Names key → segments.ShowsInFull key →
      (∀ slot : Placeholder, .placeholder slot ∈ segments →
        values slot.key ≠ none ∧ other slot.key ≠ none) →
      values.AgreeOff other key → values key ≠ other key →
      ∃ text textOther, Template.expand t values = .ok text ∧
        Template.expand t other = .ok textOther ∧ text ≠ textOther) ∧
    (∀ (directory template page source : Text) (tree other after afterOther : FileTree),
      Template.Shows source "contents".toList →
      tree.read (Page.templatePath directory template) = .ok source →
      other.read (Page.templatePath directory template) = .ok source →
      tree.read (Page.fragmentPath directory page) ≠
        other.read (Page.fragmentPath directory page) →
      Page.stamp directory template page tree = (.ok (), after) →
      Page.stamp directory template page other = (.ok (), afterOther) →
      ∃ text textOther, after.read (Page.outputPath directory page) = .ok text ∧
        afterOther.read (Page.outputPath directory page) = .ok textOther ∧ text ≠ textOther) ∧
    ∀ (site : Site) (page source : Text) (tree other : FileTree) (done doneOther : List Text),
      Template.Shows source "contents".toList →
      tree.read (Page.templatePath site.directory site.template) = .ok source →
      other.read (Page.templatePath site.directory site.template) = .ok source →
      tree.read (Page.fragmentPath site.directory page) ≠
        other.read (Page.fragmentPath site.directory page) →
      site.CollisionFree tree → site.Completed tree done → page ∈ done →
      site.CollisionFree other → site.Completed other doneOther → page ∈ doneOther →
      ∃ text textOther,
        (site.build tree).tree.read (Page.outputPath site.directory page) = .ok text ∧
        (site.build other).tree.read (Page.outputPath site.directory page) = .ok textOther ∧
        text ≠ textOther := by
  refine ⟨?_, ?_, ?_⟩
  · intro t key segments values other hparse hnames hfull hkeys hsame hne
    obtain ⟨text, htext⟩ := Template.exists_fill_eq_ok fun slot hslot => (hkeys slot hslot).1
    obtain ⟨textOther, htextOther⟩ :=
      Template.exists_fill_eq_ok fun slot hslot => (hkeys slot hslot).2
    refine ⟨text, textOther, (Template.expand_eq_ok_iff hparse).2 htext,
      (Template.expand_eq_ok_iff hparse).2 htextOther, ?_⟩
    rintro rfl
    obtain ⟨slot, hslot, rfl⟩ := hnames
    obtain ⟨value, hvalue⟩ := Option.ne_none_iff_exists'.1 (hkeys slot hslot).1
    obtain ⟨valueOther, hvalueOther⟩ := Option.ne_none_iff_exists'.1 (hkeys slot hslot).2
    have heq := Template.eq_of_fill_eq hsame hvalue hvalueOther ⟨slot, hslot, rfl⟩ hfull htext
      htextOther
    rw [hvalue, hvalueOther, heq] at hne
    exact hne rfl
  · intro directory template page source tree other after afterOther hshows hsource hsourceOther
      hne hstamp hstampOther
    obtain ⟨text, htext, hread⟩ := Page.read_of_stamp hstamp
    obtain ⟨textOther, htextOther, hreadOther⟩ := Page.read_of_stamp hstampOther
    exact ⟨text, textOther, hread, hreadOther,
      Page.text_ne hshows hsource hsourceOther htext htextOther hne⟩
  · intro site page source tree other done doneOther hshows hsource hsourceOther hne hfree hdone
      hpage hfreeOther hdoneOther hpageOther
    obtain ⟨text, htext, hread⟩ := (hdone.progress hfree).read_output hpage
    obtain ⟨textOther, htextOther, hreadOther⟩ :=
      (hdoneOther.progress hfreeOther).read_output hpageOther
    exact ⟨text, textOther, hread, hreadOther,
      Page.text_ne hshows hsource hsourceOther htext htextOther hne⟩

/-! ## A second draft

The draft with another fragment, and a value that goes on where it ended and so changes the
delimiter of its quotes. -/

namespace Site

/-- The files of the draft, with another fragment for the page `a`. -/
def revisedDraftFiles : FileTree :=
  draftFiles.set ["_a.contents.html".toList, "d".toList] (.file (Text.encode "üü".toList))

private theorem parse_draft : Template.parse "<%(title)s: %(contents)s>".toList =
    .ok [.literal "<".toList, .placeholder ⟨"title".toList, ⟨false, none, none⟩, .plain⟩,
      .literal ": ".toList, .placeholder ⟨"contents".toList, ⟨false, none, none⟩, .plain⟩,
      .literal ">".toList] := by
  cbv

private theorem shows_draft :
    Template.Shows "<%(title)s: %(contents)s>".toList "contents".toList := by
  refine ⟨_, parse_draft, ⟨⟨"contents".toList, ⟨false, none, none⟩, .plain⟩, by decide, rfl⟩, ?_⟩
  intro slot hslot _
  have hslot : slot = ⟨"title".toList, ⟨false, none, none⟩, .plain⟩ ∨
      slot = ⟨"contents".toList, ⟨false, none, none⟩, .plain⟩ := by
    simpa using hslot
  rcases hslot with rfl | rfl <;> exact ⟨rfl, rfl⟩

private theorem read_drafts :
    draftFiles.read "d/_t".toList = .ok "<%(title)s: %(contents)s>".toList ∧
    revisedDraftFiles.read "d/_t".toList = .ok "<%(title)s: %(contents)s>".toList ∧
    draftFiles.read "d/_a.contents.html".toList = .ok "ü".toList ∧
    revisedDraftFiles.read "d/_a.contents.html".toList = .ok "üü".toList :=
  ⟨by cbv, by cbv, by cbv, by cbv⟩

def draftError : BuildError :=
  { page := "c".toList, cause := .readFragment "d/_c.contents.html".toList .notFound }

private theorem haltsAt_drafts :
    draft.HaltsAt draftFiles ["b".toList, "a".toList, "b".toList] draftError [] ∧
    draft.HaltsAt revisedDraftFiles ["b".toList, "a".toList, "b".toList] draftError [] :=
  ⟨⟨rfl, by cbv, by cbv⟩, ⟨rfl, by cbv, by cbv⟩⟩

private theorem outcome_stamp_drafts :
    (Page.stamp "d".toList "_t".toList "a".toList draftFiles).1 = .ok () ∧
    (Page.stamp "d".toList "_t".toList "a".toList revisedDraftFiles).1 = .ok () :=
  ⟨by cbv, by cbv⟩

/-- A template that shows a value as it is and quoted, around another one that is padded. -/
def requoted : Template :=
  [.placeholder ⟨['k'], ⟨false, none, none⟩, .plain⟩, .literal " ".toList,
    .placeholder ⟨['o'], ⟨false, some 3, none⟩, .plain⟩, .literal " ".toList,
    .placeholder ⟨['k'], ⟨false, none, none⟩, .quoted⟩]

private theorem parse_requoted :
    Template.parse "%(k)s %(o)3s %(k)r".toList = .ok requoted := by
  cbv

private theorem mem_requoted {slot : Placeholder} (h : .placeholder slot ∈ requoted) :
    slot = ⟨['k'], ⟨false, none, none⟩, .plain⟩ ∨ slot = ⟨['o'], ⟨false, some 3, none⟩, .plain⟩ ∨
      slot = ⟨['k'], ⟨false, none, none⟩, .quoted⟩ := by
  simpa [requoted] using h

/-- A value that is shown as it is and quoted is made longer and takes the other delimiter; and
the page `a` of the draft is stamped by itself, and in builds that fail behind it. -/
theorem text_changes_with_value_draft :
    (∃ text textOther,
      Template.expand "%(k)s %(o)3s %(k)r".toList
        (Values.ofList [(['k'], "it's".toList), (['o'], "x".toList)]) = .ok text ∧
      Template.expand "%(k)s %(o)3s %(k)r".toList
        (Values.ofList [(['k'], "it's \"".toList), (['o'], "x".toList)]) = .ok textOther ∧
      text ≠ textOther) ∧
    (∃ after afterOther text textOther,
      Page.stamp "d".toList "_t".toList "a".toList draftFiles = (.ok (), after) ∧
      Page.stamp "d".toList "_t".toList "a".toList revisedDraftFiles = (.ok (), afterOther) ∧
      after.read "d/a.html".toList = .ok text ∧
      afterOther.read "d/a.html".toList = .ok textOther ∧ text ≠ textOther) ∧
    draft.Completed draftFiles ["b".toList, "a".toList, "b".toList] ∧
    draft.Completed revisedDraftFiles ["b".toList, "a".toList, "b".toList] ∧
    ∃ text textOther,
      (draft.build draftFiles).tree.read "d/a.html".toList = .ok text ∧
      (draft.build revisedDraftFiles).tree.read "d/a.html".toList = .ok textOther ∧
      text ≠ textOther := by
  obtain ⟨hsource, hsourceOther, hfragment, hfragmentOther⟩ := read_drafts
  have hne : draftFiles.read "d/_a.contents.html".toList ≠
      revisedDraftFiles.read "d/_a.contents.html".toList := by
    rw [hfragment, hfragmentOther]
    decide
  obtain ⟨hexpand, hstamp, hbuild⟩ := text_changes_with_value
  refine ⟨?_, ?_, ?_⟩
  · refine hexpand _ ['k'] _ _ _ parse_requoted ⟨_, List.mem_cons_self, rfl⟩ ?_ ?_ ?_ (by decide)
    · intro slot hslot hkey
      rcases mem_requoted hslot with rfl | rfl | rfl
      · exact ⟨rfl, rfl⟩
      · exact absurd hkey (by decide)
      · exact ⟨rfl, rfl⟩
    · intro slot hslot
      rcases mem_requoted hslot with rfl | rfl | rfl <;> decide
    · intro key hkey
      have hk : (key == ['k']) = false := beq_false_of_ne hkey
      simp only [Values.ofList, List.lookup, hk]
  · obtain ⟨text, textOther, hread, hreadOther, hdiffer⟩ :=
      hstamp "d".toList "_t".toList "a".toList _ draftFiles revisedDraftFiles _ _ shows_draft
        hsource hsourceOther hne (Prod.ext outcome_stamp_drafts.1 rfl)
        (Prod.ext outcome_stamp_drafts.2 rfl)
    exact ⟨_, _, text, textOther, Prod.ext outcome_stamp_drafts.1 rfl,
      Prod.ext outcome_stamp_drafts.2 rfl, hread, hreadOther, hdiffer⟩
  · have hdone := haltsAt_drafts.1.completed
    have hdoneOther := haltsAt_drafts.2.completed
    exact ⟨hdone, hdoneOther, hbuild draft "a".toList _ draftFiles revisedDraftFiles _ _
      shows_draft hsource hsourceOther hne collisionFree_draft hdone (by decide)
      collisionFree_draft hdoneOther (by decide)⟩

end Site

end SitePress
