import PageMarkup.Function.Conversion
import PageMarkup.Function.Render
import PageMarkup.Link.Conversion
import PageMarkup.Link.Render
import PageMarkup.Page.Nodes
import PageMarkup.Report.Layout
import PageMarkup.Template.Render

/-!
# Nodes

What nodes of all kinds have in common: a name for their kind, the features that they show, a text, and for
those that a scan has found a record and the way back to it.
-/
namespace PageMarkup

/-- A node of any kind. -/
inductive Node where
  | template (t : Template)
  | scannedTemplate (t : ScannedTemplate)
  | rawTemplate (t : RawTemplate)
  | call (c : FunctionCall)
  | scannedCall (c : ScannedCall)
  | link (l : PageLink)
  | scannedLink (l : ScannedLink)
  | fileLink (l : FileLink)
  | scannedFileLink (l : ScannedFileLink)
  | rawLink (l : RawLink)
  | scannedRawLink (l : ScannedRawLink)

/-- A feature that is shown of a value. -/
inductive Feature where
  | text (s : Option Text)
  | flag (b : Bool)
  | table (t : ParamTable)
  | slots (s : Slots)
  | superseded (ds : List Superseded)

def Superseded.layout (d : Superseded) : Layout :=
  .fields "DuplicateParameter".toList
    [("key".toList, .atom (Text.quoted d.key)), ("value".toList, .atom (Text.quoted d.value)),
      ("unnamed".toList, .atom (Text.ofBool d.unnamed))]

/-- The features of a table: its values under their keys. -/
def ParamTable.features (t : ParamTable) : Except Fault (List (Text × Feature)) := do
  return (← t.inOrder).map fun p => (p.key, .text (some p.value))

def ParamTable.layout (t : ParamTable) : Except Fault Layout := do
  return .fields "TemplateParams".toList ((← t.inOrder).map fun p => (p.key, .atom (Text.quoted p.value)))

def Feature.layout : Feature → Except Fault Layout
  | text s => .ok (Value.ofText? s).layout
  | flag b => .ok (.atom (Text.ofBool b))
  | table t => t.layout
  | slots s => .ok (.list (s.items.map fun item => (Value.ofText? item).layout))
  | superseded ds => .ok (.list (ds.map Superseded.layout))

/-- The layout of a value with the given name and features. -/
def layoutOfFeatures (name : Text) (features : List (Text × Feature)) : Except Fault Layout := do
  return .fields name (← features.mapM fun (key, feature) => do return (key, ← feature.layout))

def Param.features (p : Param) : List (Text × Feature) :=
  [("key".toList, .text (some p.key)), ("value".toList, .text (some p.value)), ("unnamed".toList, .flag p.unnamed),
    ("duplicates".toList, .superseded p.superseded)]

def Param.shown (p : Param) : Text :=
  "<TemplateParameter[".toList ++ Text.quoted p.key ++ ['='] ++ Text.quoted p.value ++ ", unnamed=".toList ++
    Text.ofBool p.unnamed ++ "]>".toList

namespace Node

def name : Node → Text
  | template _ => "Template".toList
  | scannedTemplate _ => "ParsedTemplate".toList
  | rawTemplate _ => "RawTemplate".toList
  | call _ => "ParserFunction".toList
  | scannedCall _ => "ParsedParserFunction".toList
  | link _ => "Wikilink".toList
  | scannedLink _ => "ParsedWikilink".toList
  | fileLink _ => "FileWikilink".toList
  | scannedFileLink _ => "ParsedFileWikilink".toList
  | rawLink _ => "RawWikilink".toList
  | scannedRawLink _ => "ParsedRawWikilink".toList

def shown : Node → Text
  | template t => t.shown
  | scannedTemplate t => t.shown
  | rawTemplate t => t.shown
  | call c => c.shown
  | scannedCall c => c.shown
  | link l => l.shown
  | scannedLink l => l.shown
  | fileLink l => l.shown
  | scannedFileLink l => l.shown
  | rawLink l => l.shown
  | scannedRawLink l => l.shown

/-- The title of the node, if it has one that could be read. -/
def title? : Node → Option Title
  | template t => some t.title
  | scannedTemplate t => some t.title
  | link l => some l.title
  | scannedLink l => some l.title
  | fileLink l => some l.title
  | scannedFileLink l => some l.title
  | rawTemplate _ | call _ | scannedCall _ | rawLink _ | scannedRawLink _ => none

def call? : Node → Option FunctionCall
  | call c => some c
  | scannedCall c => some c.toFunctionCall
  | _ => none

/-- The title or the hook of the node, as it stands in running text. -/
def titleText : Node → Text
  | rawTemplate t => t.title
  | call c => c.hook
  | scannedCall c => c.hook
  | rawLink l => l.title
  | scannedRawLink l => l.title
  | node => (node.title?.map Title.inText).getD []

def site? : Node → Option Site
  | rawTemplate t => t.site
  | rawLink l => l.site
  | scannedRawLink l => l.site
  | node => (node.title?.map Title.site).or (node.call?.map FunctionCall.site)

/-- The record of a construct in double braces that the node was made from. -/
def braceRecord? : Node → Option BraceRecord
  | scannedTemplate t => some t.record
  | rawTemplate t => some t.record
  | scannedCall c => some c.record
  | _ => none

/-- The record of a link that the node was made from. -/
def linkRecord? : Node → Option LinkRecord
  | scannedLink l => some l.record
  | scannedFileLink l => some l.record
  | scannedRawLink l => some l.record
  | _ => none

def origin? (node : Node) : Option Origin :=
  (node.braceRecord?.map BraceRecord.toOrigin).or (node.linkRecord?.map LinkRecord.toOrigin)

def table? : Node → Option ParamTable
  | template t => some t.params
  | scannedTemplate t => some t.params
  | rawTemplate t => some t.params
  | _ => none

/-- The node with another table of parameters. -/
def withTable (table : ParamTable) : Node → Node
  | template t => template { t with params := table }
  | scannedTemplate t => scannedTemplate { t with params := table }
  | rawTemplate t => rawTemplate { t with params := table }
  | node => node

def slots? : Node → Option Slots
  | call c => some c.params
  | scannedCall c => some c.params
  | fileLink l => some l.params
  | scannedFileLink l => some l.params
  | _ => none

/-- The node with another list of parameters. -/
def withSlots (slots : Slots) : Node → Node
  | call c => call { c with params := slots }
  | scannedCall c => scannedCall { c with params := slots }
  | fileLink l => fileLink { l with params := slots }
  | scannedFileLink l => scannedFileLink { l with params := slots }
  | node => node

/-- What a link displays of its own, and what it displays instead if that is nothing. -/
def display? : Node → Option (Option Text × Text)
  | link l => some (l.display, l.displayed)
  | scannedLink l => some (l.display, l.displayed)
  | rawLink l => some (l.display, l.displayed)
  | scannedRawLink l => some (l.display, l.displayed)
  | _ => none

def features (node : Node) : List (Text × Feature) :=
  let titled (title : Text) (key : String) (feature : Feature) : List (Text × Feature) :=
    [("title".toList, .text (some title)), (key.toList, feature)]
  match node.table?, node.display?, node.slots? with
  | some table, _, _ => titled node.titleText "params" (.table table)
  | none, some (display, _), _ =>
    titled ((node.title?.map (·.render true true)).getD node.titleText) "display" (.text display)
  | none, none, some slots =>
    match node.title? with
    | some title => titled (title.render false false) "params" (.slots slots)
    | none => [("hook".toList, .text (some node.titleText)), ("params".toList, .slots slots)]
  | none, none, none => []

def layout (node : Node) : Except Fault Layout := layoutOfFeatures node.name node.features

/-- The node as it is written; with `raw` and what was written around its title. -/
def render (raw : Bool := false) : Node → Except Fault Text
  | template t => t.render
  | scannedTemplate t => t.render raw
  | rawTemplate t => t.render raw
  | call c => .ok c.render
  | scannedCall c => .ok (c.render raw)
  | link l => .ok l.render
  | scannedLink l => .ok (l.render raw)
  | fileLink l => .ok l.render
  | scannedFileLink l => .ok (l.render raw)
  | rawLink l => .ok l.render
  | scannedRawLink l => .ok (l.render raw)

def pristine : Node → Except Fault Node
  | scannedTemplate t => scannedTemplate <$> t.pristine
  | rawTemplate t => rawTemplate <$> t.pristine
  | scannedCall c => scannedCall <$> c.pristine
  | scannedLink l => scannedLink <$> l.pristine
  | scannedFileLink l => scannedFileLink <$> l.pristine
  | scannedRawLink l => .ok (scannedRawLink l.pristine)
  | node => .error (.unsupported node.name)

/-- The node that a node in double braces is. -/
def ofBrace : BraceNode → Node
  | .template t => scannedTemplate t
  | .raw t => rawTemplate t
  | .call c => scannedCall c

def ofLink : LinkNode → Node
  | .page l => scannedLink l
  | .file l => scannedFileLink l
  | .raw l => scannedRawLink l

/-! ## Changes -/

/-- The attempt at a node that is made of what another attempt yields. -/
def attempted {α : Type} (make : α → Node) (attempt : Except Fault (Attempt α)) :
    Except Fault (Attempt Node) := do
  let attempt ← attempt
  return ⟨attempt.result.map make, attempt.report⟩

def setTitle (node : Node) (title : Value) (verbose : Bool := false) : Except Fault (Attempt Node) :=
  match node with
  | template t => attempted template (t.setTitle title verbose)
  | scannedTemplate t => attempted scannedTemplate (t.setTitle title verbose)
  | link l => attempted link (l.setTitle title verbose)
  | scannedLink l => attempted scannedLink (l.setTitle title verbose)
  | fileLink l => attempted fileLink (l.setTitle title verbose)
  | scannedFileLink l => attempted scannedFileLink (l.setTitle title verbose)
  | rawTemplate t => do return ⟨some (rawTemplate (← t.setTitle title)), none⟩
  | rawLink l => do return ⟨some (rawLink (← l.setTitle title)), none⟩
  | scannedRawLink l => do return ⟨some (scannedRawLink (← l.setTitle title)), none⟩
  | node => .error (.unsupported node.name)

/-- Whether the title of the node is a plain text, which any text can take the place of. -/
def hasPlainTitle : Node → Bool
  | rawTemplate _ | rawLink _ | scannedRawLink _ => true
  | _ => false

def setDisplay (node : Node) (display : Value) : Except Fault Node :=
  match node with
  | link l => link <$> l.setDisplay display
  | scannedLink l => scannedLink <$> l.setDisplay display
  | rawLink l => rawLink <$> l.setDisplay display
  | scannedRawLink l => scannedRawLink <$> l.setDisplay display
  | node => .error (.unsupported node.name)

def setHook? (node : Node) (hook : Value) : Except Fault (Option Node) :=
  match node with
  | call c => .ok ((c.setHook? hook).map call)
  | scannedCall c => .ok ((c.setHook? hook).map scannedCall)
  | node => .error (.unsupported node.name)

def toTemplate (node : Node) (title hierarchies : Value) (verbose : Bool) : Except Fault (Attempt Node) :=
  match node with
  | rawTemplate t => attempted scannedTemplate (t.toTemplate title verbose)
  | scannedCall c => attempted scannedTemplate (c.toTemplate title hierarchies verbose)
  | node => .error (.unsupported node.name)

def toCall (node : Node) (hook : Value) (verbose : Bool) : Except Fault (Attempt Node) :=
  match node with
  | scannedTemplate t => attempted scannedCall (t.toCall hook verbose)
  | rawTemplate t => attempted scannedCall (t.toCall hook verbose)
  | node => .error (.unsupported node.name)

def toLink (node : Node) (title : Value) (verbose : Bool) : Except Fault (Attempt Node) :=
  match node with
  | fileLink l => attempted link (l.toLink title verbose)
  | scannedFileLink l => attempted scannedLink (l.toLink title verbose)
  | rawLink l => attempted link (l.toLink title verbose)
  | scannedRawLink l => attempted scannedLink (l.toLink title verbose)
  | node => .error (.unsupported node.name)

def toFileLink (node : Node) (title : Value) (verbose : Bool) : Except Fault (Attempt Node) :=
  match node with
  | link l => attempted fileLink (l.toFileLink title verbose)
  | scannedLink l => attempted scannedFileLink (l.toFileLink title verbose)
  | rawLink l => attempted fileLink (l.toFileLink title verbose)
  | scannedRawLink l => attempted scannedFileLink (l.toFileLink title verbose)
  | node => .error (.unsupported node.name)

end Node

end PageMarkup
