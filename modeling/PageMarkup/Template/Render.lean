import PageMarkup.Template.Basic

/-!
# Writing templates

A template is written with its title and its parameters between double braces. What a scan has found is
written as it was read as long as it stands for it: parameters that were not changed, and with a raw title
what was written around the title.
-/
namespace PageMarkup

/-- How a template is written. -/
structure TemplateStyle where
  /-- What is put in front of the title. Its last colon is dropped if the title has one in front. -/
  lead : Text := []
  /-- What is put behind the title. -/
  trail : Text := []
  /-- The order of the parameters, if they do not stay in their own. -/
  sorting : Option (Param → Param → Bool) := none
  breaksAfterTitle : Text → Bool := fun _ => false
  breaksAfterParam : Option (Param → Bool) := none
  /-- Numeric keys that are left out, unless the value holds an equals sign. -/
  bareKeys : List Text := []
  /-- Whether all parameters are written anew. -/
  canonical : Bool := false

namespace TemplateStyle

/-- Whether parameters may come out in another form than they were read in. -/
def reformats (style : TemplateStyle) : Bool :=
  style.canonical || !style.bareKeys.isEmpty || style.sorting.isSome || style.breaksAfterParam.isSome

/-- The parameters in the order in which they are written. -/
def arrange (style : TemplateStyle) (params : List Param) : List Param :=
  match style.sorting with
  | some le => params.mergeSort le
  | none => params

/-- Whether the key of the parameter is to be left out. -/
def bares (style : TemplateStyle) (p : Param) : Bool := style.bareKeys.contains p.key && isNumericKey p.key

/-- Whether the text that the parameter was read from is kept: unless all parameters are written anew or its key is
left out. -/
def keeps (style : TemplateStyle) (p : Param) : Bool := !style.canonical && (p.unnamed || !style.bares p)

/-- The parameter as it is written, with the text that it was read from if that is kept. -/
def paramText (style : TemplateStyle) (p : Param) : Text :=
  let anew := writeParam ((p.unnamed || style.bares p) && !p.value.contains '=') p.key p.value
  match p.sourceText? with
  | some source => if style.keeps p then source else anew
  | none => anew

/-- The parameter with a line break behind it if one is asked for. -/
def paramLine (style : TemplateStyle) (p : Param) : Text :=
  style.paramText p ++ if style.breaksAfterParam.any (· p) then ['\n'] else []

/-- The parameters as they are written one after the other. -/
def paramsText (style : TemplateStyle) (params : List Param) : Text := (style.arrange params).flatMap style.paramLine

/-- What stands between the opening braces and the parameters, for a title that is written as `title` and
stands as `plain` in running text. -/
def headText (style : TemplateStyle) (leadingColon : Bool) (title plain : Text) : Text :=
  (if leadingColon && Text.endsWith [':'] style.lead then style.lead.dropLast else style.lead) ++ title ++
    style.trail ++ if style.breaksAfterTitle plain then ['\n'] else []

/-- The source among those that are kept which is no text. -/
def unwritable? (style : TemplateStyle) (params : List Param) : Option Value :=
  params.findSome? fun p => if style.keeps p then p.foreignSource? else none

/-- The parameters of a table as they are written: as `scanned?` says if there is such a text and the style asks
for nothing else. -/
def tableText (style : TemplateStyle) (table : ParamTable) (scanned? : Except Fault (Option Text)) :
    Except Fault Text := do
  match ← if style.reformats then .ok none else scanned? with
  | some scanned => return scanned
  | none =>
    let params ← table.inOrder
    match style.unwritable? params with
    | some source => .error (.notJoinable source.kind)
    | none => return style.paramsText params

end TemplateStyle

/-- Whether the seed comes with something that it was read from. -/
def SeedValue.hasSource (seed : SeedValue) : Bool :=
  match seed.source with
  | .null => false
  | _ => true

/-- What was read for a table of parameters: its seeds one after the other as they were written, if each of
them was and the table is the one that was read. -/
def ParamTable.asScanned? (t scanned : ParamTable) (seeds : List SeedValue) : Except Fault (Option Text) :=
  if t.same scanned && seeds.all (·.hasSource) then
    match seeds.mapM (·.source.text?) with
    | some texts => .ok (some texts.flatten)
    | none => .error (.notJoinable [])
  else .ok none

/-- The head and the parameters between double braces. -/
def writeBraces (head params : Text) : Text := ['{', '{'] ++ head ++ params ++ ['}', '}']

def Template.render (t : Template) (style : TemplateStyle := {}) : Except Fault Text := do
  let params ← style.tableText t.params (.ok none)
  return writeBraces (style.headText t.hasLeadingColon t.titleText t.title.inText) params

namespace ScannedTemplate

/-- The title as it is written; with `raw` and what was written around it. -/
def titlePart (t : ScannedTemplate) (raw : Bool) : Text :=
  if raw then t.record.titlePart t.titleText (t.title.same t.scannedTitle) else t.titleText

def render (t : ScannedTemplate) (raw : Bool := false) (style : TemplateStyle := {}) : Except Fault Text := do
  let params ← style.tableText t.params (t.params.asScanned? t.scannedParams t.record.seeds)
  return writeBraces (style.headText t.hasLeadingColon (t.titlePart raw) t.title.inText) params

end ScannedTemplate

namespace RawTemplate

/-- The title as it is written; with `raw` and what was written around it. -/
def titlePart (t : RawTemplate) (raw : Bool) : Text :=
  if raw then t.record.titlePart t.title (t.title == t.record.title) else t.title

def render (t : RawTemplate) (raw : Bool := false) (style : TemplateStyle := {}) : Except Fault Text := do
  let params ← style.tableText t.params (t.params.asScanned? t.scannedParams t.record.seeds)
  return writeBraces (style.headText (Text.startsWith [':'] t.title) (t.titlePart raw) t.title) params

end RawTemplate

end PageMarkup
