import PageMarkup.Datum.Members
import PageMarkup.Node

/-!
# Values as data

The form in which values of the library are handed out as data: records with named fields, lists and texts.
-/
namespace PageMarkup

namespace Datum

def named (name : String) (d : Plain) : Text × Plain := (name.toList, d)

def ofNat (n : Nat) : Plain := .int n

/-- The datum of an optional value, with nothing for a missing one. -/
def ofOption {α : Type} (make : α → Plain) (a : Option α) : Plain := (a.map make).getD .null

def ofText? (s : Option Text) : Plain := ofOption .text s

def ofTexts (texts : List Text) : Plain := .list (texts.map .text)

end Datum

open Datum (named ofNat ofOption ofText? ofTexts)

def Title.toData (t : Title) : Plain :=
  .record [named "ns" (.int t.namespaceId), named "main" (.text t.main), named "fragment" (.text t.fragment),
    named "interwiki" (.text t.interwiki), named "colon" (.bool t.leadingColon)]

def UnplacedTitle.toData (t : UnplacedTitle) : Plain :=
  .record [named "ns" t.place, named "main" (.text []), named "fragment" (.text t.fragment),
    named "interwiki" (.text []), named "colon" (.bool false)]

def VerifiedHook.toData (hook : VerifiedHook) : Plain := ofTexts [hook.canonical, hook.written]

/-- The id and the names of a namespace, and its case setting. -/
def Namespace.toItems (space : Namespace) : List Plain :=
  [.int space.id, ofText? space.name, ofText? space.canonical, .list (space.aliases.map ofText?), space.titleCase]

def Interwiki.toData (iw : Interwiki) : Plain :=
  .list [.text iw.label, iw.url, .bool iw.isLocal, .bool iw.transcludes, .bool iw.isLocalLink]

mutual

/-- A value as data: titles with their parts, places by their words, and patterns by their sources. -/
def Value.toData : Value → Plain
  | .null => .null
  | .bool b => .bool b
  | .int n => .int n
  | .real negative digits places => .real negative digits places
  | .text s => .text s
  | .list items => .list (Value.itemsToData items)
  | .tuple items => .list (Value.itemsToData items)
  | .record fields => .record (Value.fieldsToData fields)
  | .leaf (.title t) => t.toData
  | .leaf (.unplaced t) => t.toData
  | .leaf (.place p) => .text p.word
  | .leaf (.pattern p) => .text p.source
  | .leaf .function => .null
  | .leaf (.seed value key source) => .record [named "value" value, named "key" key, named "text" source]

def Value.itemsToData : List Value → List Plain
  | [] => []
  | v :: rest => v.toData :: Value.itemsToData rest

def Value.fieldsToData : List (Text × Value) → List (Text × Plain)
  | [] => []
  | (key, v) :: rest => (key, v.toData) :: Value.fieldsToData rest

end

/-! ## Parameters -/

def SeedValue.toData (seed : SeedValue) : Plain :=
  .record [named "value" seed.value.toData, named "key" seed.key.toData, named "text" seed.source.toData]

def Superseded.toData (d : Superseded) : Plain :=
  .list [.text d.key, .text d.value, .bool d.unnamed, .text d.written]

/-- The text that a parameter was read from, or anything else that was given for it; otherwise how it would be written
anew. -/
def Param.writtenData (p : Param) : Plain :=
  match p.source with
  | .null => .text p.canonical
  | source => source.toData

def Param.toData (p : Param) : Plain :=
  .record [named "key" (.text p.key), named "value" (.text p.value), named "unnamed" (.bool p.unnamed),
    named "duplicates" (.list (p.superseded.map Superseded.toData)), named "text" p.writtenData,
    named "canonical" (.text p.canonical)]

def Slots.toItems (s : Slots) : Plain := .list (s.items.map ofText?)

def Slots.toData (s : Slots) : Plain :=
  .record [named "type" (.text "ParamList".toList), named "params" s.toItems, named "repr" (.text s.shown)]

/-- The keys of a table in their order, and its parameters. -/
def ParamTable.toFields (t : ParamTable) : Except Fault (List (Text × Plain)) := do
  return [named "order" (ofTexts t.order), named "params" (.list ((← t.inOrder).map Param.toData))]

def ParamTable.toData (t : ParamTable) : Except Fault Plain := do
  return .record (named "type" (.text "TemplateParams".toList) :: (← t.toFields) ++ [named "repr" (.text (← t.shown))])

def Override.toData : Override → Plain
  | overrides live => ofTexts ["overrides".toList, live]
  | overridden live => ofTexts ["overridden".toList, live]

def Feature.toData : Feature → Except Fault Plain
  | text s => .ok (ofText? s)
  | flag b => .ok (.bool b)
  | table t => t.toData
  | slots s => .ok s.toItems
  | superseded ds => .ok (.list (ds.map Superseded.toData))

/-! ## Records -/

namespace Origin

/-- A field as it was given, or else with the value that it is known to have. -/
def shownField (o : Origin) (name : String) (known : Plain) : Text × Plain :=
  named name ((o.given.lookup name.toList).getD known)

/-- The construct as it was written, or what was given for it. -/
def writtenField (o : Origin) : Text × Plain := o.shownField "text" (.text o.written)

/-- How many constructs are around this one, and whether it counts for nothing. -/
def settingFields (o : Origin) : List (Text × Plain) :=
  [o.shownField "nest_level" (ofNat o.nestLevel), o.shownField "skip" (.bool o.skipped)]

def spanFields (o : Origin) : List (Text × Plain) :=
  [o.shownField "start_index" (ofNat o.span.start), o.shownField "end_index" (ofNat o.span.stop)]

def toFields (o : Origin) : List (Text × Plain) :=
  [named "title" (.text o.title), named "raw_title" (.text o.rawTitle), o.writtenField] ++ o.spanFields ++
    o.settingFields ++ [named "has_marker" (.bool o.hasMarker), named "filled_raw_title" (.text o.filledTitle)]

/-- Where a construct was found, and how its title was written. -/
def provenance (o : Origin) : List (Text × Plain) :=
  [o.writtenField, named "span" (.list (o.spanFields.map (·.2)))] ++ o.settingFields ++
    [named "raw_title" (.text o.filledTitle)]

end Origin

namespace LinkRecord

/-- The indexes of the links inside, or what was given for them, in ascending order. -/
def childrenData (r : LinkRecord) : Except Fault Plain := do
  let children := match r.given.lookup "children".toList with
    | some (.list given) => given
    | _ => r.children.map ofNat
  return .list (← Datum.ascending children)

/-- The place of a link among the links of its page. -/
def placeFields (r : LinkRecord) : Except Fault (List (Text × Plain)) := do
  return [r.shownField "index" (ofNat r.index), r.shownField "parent" (ofOption ofNat r.parent),
    named "children" (← r.childrenData)]

end LinkRecord

def BraceRecord.toData (r : BraceRecord) : Plain :=
  .record (r.toOrigin.toFields ++
    [named "params" (.list (r.seeds.map SeedValue.toData)), named "template_title" r.templateTitle])

def LinkRecord.toData (r : LinkRecord) : Except Fault Plain := do
  return .record (r.toOrigin.toFields ++ (← r.placeFields) ++
    [r.shownField "display" (ofText? r.display), r.shownField "params" (ofOption ofTexts r.params)])

/-! ## Nodes and pages -/

namespace Node

/-- The title of the node: its parts, or the text that stands for it. -/
def titleToData (node : Node) : Plain := (node.title?.map Title.toData).getD (.text node.titleText)

/-- The title of the node and what stands behind it. -/
def contentFields (node : Node) : Except Fault (List (Text × Plain)) :=
  let title := named "title" node.titleToData
  match node.table?, node.slots?, node.call?, node.display? with
  | some table, _, _, _ => do return title :: (← table.toFields)
  | none, some slots, some c, _ =>
    .ok [named "hook" (.text c.hook), named "canonical" (.text c.canonical), named "params" slots.toItems]
  | none, some slots, none, _ => .ok [title, named "params" slots.toItems]
  | none, none, _, display =>
    .ok [title, named "display" (ofText? (display.map (·.2))), named "has_display" (.bool (display.any (·.1.isSome)))]

/-- The fields of the node. A node that was found by a scan has a raw form as well. -/
def toFields (node : Node) : Except Fault (List (Text × Plain)) := do
  let content ← node.contentFields
  let rawHook := match node with
    | scannedCall c => [named "raw_hook" (.text c.rawHook)]
    | _ => []
  let written := named "str" (.text (← node.render))
  let raw ← if node.origin?.isSome then do pure [named "raw" (.text (← node.render true))] else pure []
  return named "type" (.text node.name) :: content ++ rawHook ++ written :: raw

def provenance (node : Node) : Except Fault (List (Text × Plain)) := do
  let some o := node.origin? | return []
  let place ← match node.linkRecord? with
    | some r => r.placeFields
    | none => pure []
  return [named "provenance" (.record (o.provenance ++ place))]

end Node

def Page.toData (page : Page) : Plain :=
  .record [named "type" (.text "Wikitext".toList), named "text" (.text page.text),
    named "length" (ofNat page.text.length), named "skip_tags" (ofTexts (page.skipTags.mergeSort Text.precedes)),
    named "repr" (.text page.shown)]

end PageMarkup
