import PageMarkup.Function.Basic
import PageMarkup.Link.Basic
import PageMarkup.Page.Basic
import PageMarkup.Page.Replacement
import PageMarkup.Template.Basic

/-!
# The nodes of a page

Each record of a page becomes a node: a function call if its title begins with a hook of the site, a template
or a link if the title can be read, and a raw node otherwise.
-/
namespace PageMarkup

/-- A node in double braces. -/
inductive BraceNode where
  | template (t : ScannedTemplate)
  | raw (t : RawTemplate)
  | call (c : ScannedCall)

namespace BraceNode

def record : BraceNode → BraceRecord
  | template t => t.record
  | raw t => t.record
  | call c => c.record

/-- The title or the hook of the node, as it stands in running text. -/
def titleText : BraceNode → Text
  | template t => t.title.inText
  | raw t => t.title
  | call c => c.hook

/-- The hierarchies of the templates with the given full title, if they are kept by titles at all. -/
def hierarchiesOf (hierarchies : Value) (title : Text) : Except Fault Value :=
  match hierarchies with
  | .record fields => .ok ((fields.lookup title).getD .null)
  | v => if v.truthy then .error (.unsupported v.kind) else .ok .null

/-- The node that a record describes. Hierarchies are looked up by the full title. -/
def ofRecord (site : Site) (hierarchies : Value) (record : BraceRecord) : Except Fault BraceNode :=
  if (site.hookTable.verify record.title).isSome then call <$> ScannedCall.ofRecord (some site) record
  else
    match Title.transcluded (some site) (.text record.title) with
    | .ok title => do
      let chains ← hierarchiesOf hierarchies (title.render false false)
      template <$> ScannedTemplate.ofRecord (some site) record chains
    | .error fault => if fault.isOfTitle then raw <$> RawTemplate.ofRecord (some site) record else .error fault

end BraceNode

/-- A link of a page. -/
inductive LinkNode where
  | page (link : ScannedLink)
  | file (link : ScannedFileLink)
  | raw (link : ScannedRawLink)

namespace LinkNode

def record : LinkNode → LinkRecord
  | page link => link.record
  | file link => link.record
  | raw link => link.record

def titleText : LinkNode → Text
  | page link => link.title.inText
  | file link => link.title.inText
  | raw link => link.title

/-- The parameters of a link that embeds a file, from what it displays. -/
def paramsOf : Option Text → List Text
  | none => []
  | some display => splitTopLevel display

def ofRecord (site : Option Site) (record : LinkRecord) : Except Fault LinkNode :=
  match Title.ofValue site (.text record.title) with
  | .ok title =>
    if title.isFile && !title.leadingColon then
      file <$> ScannedFileLink.ofRecord site { record with display := none, params := some (paramsOf record.display) }
    else page <$> ScannedLink.ofRecord site record
  | .error (.invalidTitle ..) => .ok (raw (ScannedRawLink.ofRecord site record))
  | .error fault => .error fault

end LinkNode

namespace Page

/-- The nodes in double braces that records describe, where the title and the node itself are asked for. -/
def templatesOf (page : Page) (records : List BraceRecord) (hierarchies : Value := .null)
    (titleFits : Text → Bool := fun _ => true) (fits : BraceNode → Bool := fun _ => true) :
    Except Fault (List BraceNode) :=
  match page.site with
  | some site => do
    let nodes ← (records.filter fun record => titleFits record.title).mapM (BraceNode.ofRecord site hierarchies)
    return nodes.filter fits
  | none => .error (.unsupported "NoneType".toList)

/-- The nodes in double braces of the page, where the title and the node itself are asked for. -/
def templates (page : Page) (hierarchies : Value := .null) (titleFits : Text → Bool := fun _ => true)
    (fits : BraceNode → Bool := fun _ => true) : Except Fault (List BraceNode) :=
  page.templatesOf page.braceRecords hierarchies titleFits fits

def linksOf (page : Page) (records : List LinkRecord) : Except Fault (List LinkNode) := do
  let links ← records.mapM (LinkNode.ofRecord page.site)
  if page.site.isNone then .error (.unsupported "NoneType".toList)
  return links

def links (page : Page) : Except Fault (List LinkNode) := page.linksOf page.linkRecords

/-- The text of the page with replacements for nodes in double braces, and the nodes that were asked about.
Those that are skipped are left alone unless `includeSkipped` holds. -/
def replaceTemplates {m : Type → Type} [Monad m] (page : Page) (nodes : List BraceNode)
    (edit : BraceNode → m (Option Text)) (includeSkipped : Bool := false) : m (Text × List BraceNode) :=
  replaceNodes (·.record.span) (fun node => includeSkipped || !node.record.skipped) edit page.text nodes

/-- The text of the page with replacements for links, and the links that were asked about. Those that are
skipped are left alone unless `includeSkipped` holds. -/
def replaceLinks {m : Type → Type} [Monad m] (page : Page) (nodes : List LinkNode)
    (edit : LinkNode → m (Option Text)) (includeSkipped : Bool := false) : m (Text × List LinkNode) :=
  replaceNodes (·.record.span) (fun node => includeSkipped || !node.record.skipped) edit page.text nodes

end Page

end PageMarkup
