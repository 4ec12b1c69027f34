import PageMarkup.Attempt
import PageMarkup.Param.Table
import PageMarkup.Record
import PageMarkup.Title.Check

/-!
# Templates

A template is a title with a table of parameters, made by a caller or from the record of a construct that a
scan has found. A construct whose title is no valid title of a template is a raw template, with a plain text
for its title.
-/
namespace PageMarkup

/-- A template that is transcluded. -/
structure Template where
  title : Title
  params : ParamTable

namespace Template

/-- Whether the title is written with a colon in front: it was read with one, or it names a page of the main
namespace, which would be taken for a template otherwise. -/
def hasLeadingColon (t : Template) : Bool :=
  t.title.leadingColon || (t.title.namespaceId = t.title.site.mainId && !t.title.isExternal)

def titleText (t : Template) : Text :=
  if t.title.namespaceId = t.title.site.templateId && !t.title.isExternal then t.title.main
  else if t.hasLeadingColon then ':' :: t.title.render false false
  else t.title.render false false

def create (site : Option Site) (title : Value) (params : Value := .list []) (hierarchies : Value := .null) :
    Except Fault Template := do
  let title ← Title.transcluded site title
  let params ← ParamTable.ofValues params hierarchies
  return { title, params }

/-- The template with the given title and parameters, or nothing if they do not fit. -/
def create? (site : Option Site) (title : Value) (params : Value := .list []) (hierarchies : Value := .null) :
    Except Fault (Option Template) :=
  match create site title params hierarchies with
  | .ok t => .ok (some t)
  | .error fault => if fault.isReportable then .ok none else .error fault

end Template

def Template.shown (t : Template) (name : String := "Template") : Text :=
  shownNode name t.title.inText t.params.live.length

def Template.setTitle (t : Template) (title : Value) (verbose : Bool := false) (name : String := "Template") :
    Except Fault (Attempt Template) :=
  Attempt.of (settingTitle title) (t.shown name) verbose do
    return { t with title := ← Title.transcluded (some t.title.site) title }

/-- A template that was found by a scan. -/
structure ScannedTemplate extends Template where
  record : BraceRecord
  /-- The parameters as they were read. -/
  scannedParams : ParamTable
  /-- The title as it was read. -/
  scannedTitle : Title

namespace ScannedTemplate

def ofRecord (site : Option Site) (record : BraceRecord) (hierarchies : Value := .null) :
    Except Fault ScannedTemplate := do
  let title ← Title.transcluded site (.text record.title)
  let params ← ParamTable.ofSeedValues record.seeds (← ParamTable.readChains hierarchies)
  return { title, params, record, scannedParams := params, scannedTitle := title }

def shown (t : ScannedTemplate) : Text := t.toTemplate.shown "ParsedTemplate"

def setTitle (t : ScannedTemplate) (title : Value) (verbose : Bool := false) :
    Except Fault (Attempt ScannedTemplate) := do
  let attempt ← t.toTemplate.setTitle title verbose "ParsedTemplate"
  return ⟨attempt.result.map fun changed => { t with toTemplate := changed }, attempt.report⟩

def pristine (t : ScannedTemplate) : Except Fault ScannedTemplate :=
  ofRecord t.title.site t.record (ParamTable.chainsValue t.params.chains)

end ScannedTemplate

/-- A construct in double braces whose title is no title of a template. -/
structure RawTemplate where
  title : Text
  params : ParamTable
  record : BraceRecord
  /-- The parameters as they were read. -/
  scannedParams : ParamTable
  site : Option Site

namespace RawTemplate

def ofRecord (site : Option Site) (record : BraceRecord) (hierarchies : Value := .null) :
    Except Fault RawTemplate := do
  let params ← ParamTable.ofSeedValues record.seeds (← ParamTable.readChains hierarchies)
  return { title := record.title, params, record, scannedParams := params, site }

def shown (t : RawTemplate) : Text := shownNode "RawTemplate" t.title t.params.live.length

def setTitle (t : RawTemplate) : Value → Except Fault RawTemplate
  | .text s => .ok { t with title := s }
  | v => .error (.found (.text "title".toList) v)

/-- The site on which a title is read: that of a title, and otherwise that of the raw template. -/
def siteFor (t : RawTemplate) : Value → Except Fault Site
  | .leaf (.title title) => .ok title.site
  | .leaf (.unplaced title) => .ok title.site
  | _ =>
    match t.site with
    | some site => .ok site
    | none => .error (.siteRequired (.conversion t.shown))

def pristine (t : RawTemplate) : Except Fault RawTemplate :=
  ofRecord t.site t.record (ParamTable.chainsValue t.params.chains)

end RawTemplate

end PageMarkup
