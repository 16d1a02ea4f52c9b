import SitePress.Files.Tree
import SitePress.Site.Error
import SitePress.Template.Parser

/-!
# Pages

A page is stamped from its content fragment and the template of the site, all three
files being named from the page and the site's directory.  The fragment is read
first, then the template; nothing is written unless both are read and the template
expands.
-/

namespace SitePress.Page

/-! ## Files -/

def fragmentPath (directory page : Text) : Text :=
  Path.join directory ('_' :: page ++ ".contents.html".toList)

def outputPath (directory page : Text) : Text :=
  Path.join directory (page ++ ".html".toList)

/-- The template, which is named from the site's directory. -/
def templatePath (directory template : Text) : Text :=
  Path.join directory template

/-! ## Stamping -/

/-- The values of a page: its name as the title, and its fragment as the contents. -/
def values (page fragment : Text) : Values :=
  .ofList [("title".toList, page), ("contents".toList, fragment)]

/-- The text of a page, or the first stage before writing that fails. -/
def text (directory template page : Text) (tree : FileTree) : Except PageError Text := do
  let fragment ← (tree.read (fragmentPath directory page)).mapError
    (.readFragment (fragmentPath directory page))
  let source ← (tree.read (templatePath directory template)).mapError
    (.readTemplate (templatePath directory template))
  (Template.expand source (values page fragment)).mapError
    (.expandTemplate (templatePath directory template))

/-- Stamps one page: what became of it, and the tree afterwards. -/
def stamp (directory template page : Text) (tree : FileTree) : Except PageError Unit × FileTree :=
  match text directory template page tree with
  | .error error => (.error error, tree)
  | .ok stamped =>
    match tree.write (outputPath directory page) stamped with
    | .error cause => (.error (.writeOutput (outputPath directory page) cause), tree)
    | .ok written => (.ok (), written)

end SitePress.Page
