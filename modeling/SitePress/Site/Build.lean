import SitePress.Site.Page

/-!
# Building a site

A build stamps the pages of a site in their order and stops at the first that
fails; what was written before stays.  It reports its progress as events, which say
what was done and never what to do.

## Main definitions

* `Site` — a directory, a template and the pages to stamp.
* `Site.standard` — the site with the fixed template and pages.
* `Event` — what a build reports.
* `Site.build` — a build: its outcome, the tree it leaves, and its events.
-/

namespace SitePress

/-! ## Sites -/

/-- What to stamp: pages from one template, in one directory. -/
structure Site where
  directory : Text
  template : Text
  pages : List Text
  deriving DecidableEq, Repr

namespace Site

def standardTemplate : Text := "_template.html".toList

def standardPages : List Text :=
  ["index", "Features", "Download", "Roadmap", "codecompletion", "codecompletionsnapshots",
    "contentassist", "refactoring", "Faq", "Credits", "codecoverage", "run", "debug",
    "debug_prefs", "editor_prefs", "pylint", "pychecker", "tasks"].map String.toList

/-- The directory of a standard site when none is named. -/
def standardDirectory : Text := ['.']

/-- The site with the fixed template and pages, in a directory. -/
def standard (directory : Text) : Site :=
  { directory, template := standardTemplate, pages := standardPages }

/-- The files that a build reads: the template and every fragment. -/
def inputPaths (site : Site) : List Text :=
  Page.templatePath site.directory site.template ::
    site.pages.map (Page.fragmentPath site.directory)

def outputPaths (site : Site) : List Text :=
  site.pages.map (Page.outputPath site.directory)

end Site

/-! ## Events -/

/-- What a build reports. -/
inductive Event
  /-- The files of a page are known; nothing of it has been read yet. -/
  | resolved (page fragment template output : Text)
  /-- A page has been written. -/
  | wrote (page : Text)
  /-- All pages, so many of them, have been written. -/
  | complete (pages : Nat)
  deriving DecidableEq, Repr

/-! ## Builds -/

/-- A build that has ended. -/
structure Build where
  outcome : Except BuildError Unit
  tree : FileTree
  /-- What the build reported, in order. -/
  events : List Event

namespace Site

/-- The event in front of the stamping of a page. -/
def resolvedEvent (site : Site) (page : Text) : Event :=
  .resolved page (Page.fragmentPath site.directory page)
    (Page.templatePath site.directory site.template) (Page.outputPath site.directory page)

/-- Stamps pages in order, up to the first that fails. -/
def buildPages (site : Site) : List Text → FileTree → Build
  | [], tree => { outcome := .ok (), tree, events := [] }
  | page :: pages, tree =>
    match Page.stamp site.directory site.template page tree with
    | (.error cause, tree) =>
      { outcome := .error { page, cause }, tree, events := [site.resolvedEvent page] }
    | (.ok (), tree) =>
      let rest := site.buildPages pages tree
      { rest with events := site.resolvedEvent page :: .wrote page :: rest.events }

/-- Builds a site on a tree. -/
def build (site : Site) (tree : FileTree) : Build :=
  let run := site.buildPages site.pages tree
  match run.outcome with
  | .error _ => run
  | .ok () => { run with events := run.events ++ [.complete site.pages.length] }

end Site

end SitePress
