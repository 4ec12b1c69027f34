import PageMarkup.Function.Basic
import PageMarkup.Template.Basic

/-!
# Conversions between templates and function calls

A construct in double braces that was taken for one kind can be made the other: its record is read again with
another title. Changes that were made to the node since are not carried over. A template that is made a call
leaves its title in the record, and the call can be made a template again without a title being named.
-/
namespace PageMarkup

/-- The call that a record describes with the given hook for its title. `templateTitle` is the title that the
construct has as a template. -/
def ScannedCall.ofHook (site : Option Site) (record : BraceRecord) (templateTitle : Plain) :
    Value → Except Fault ScannedCall
  | .text hook => ofRecord site { record with title := hook, templateTitle }
  | v => .error (.invalidHook v)

/-- The template that a record describes with the given title. -/
def ScannedTemplate.ofTitle (site : Option Site) (record : BraceRecord) (title : Value)
    (hierarchies : Value := .null) : Except Fault ScannedTemplate :=
  match title with
  | .text s => ofRecord site { record with title := s } hierarchies
  | v => .error (.found .title v)

/-- The text of a title, with its leading colon and without its fragment; any other value as it is. -/
def Value.titleText : Value → Value
  | .leaf (.title t) => .text (t.render true false)
  | v => v

/-- The action of making a node a function call. -/
def makingCall (hook : Value) : Except Unwritable Text := actionWith "convert to a parser function with " "hook" hook

def makingTemplate (title : Value) : Except Unwritable Text :=
  actionWith "convert to a template with " "title" title

/-- The call that the template is with the given hook. -/
def ScannedTemplate.toCall (t : ScannedTemplate) (hook : Value) (verbose : Bool := false) :
    Except Fault (Attempt ScannedCall) :=
  let templateTitle := if t.record.templateTitle.truthy then t.record.templateTitle else .text t.record.title
  Attempt.of (makingCall hook) t.shown verbose
    (ScannedCall.ofHook (some t.title.site) t.record templateTitle hook)

namespace RawTemplate

/-- The template that the raw template is with the given title. The text of a title is taken before the attempt is
made. -/
def toTemplate (t : RawTemplate) (title : Value) (verbose : Bool := false) :
    Except Fault (Attempt ScannedTemplate) :=
  match title with
  | .leaf (.unplaced title) => .error (.unwritable title.unwritable)
  | title =>
    Attempt.of (makingTemplate title) t.shown verbose do
      let site ← t.siteFor title
      ScannedTemplate.ofTitle (some site) t.record title.titleText (ParamTable.chainsValue t.params.chains)

def toCall (t : RawTemplate) (hook : Value) (verbose : Bool := false) : Except Fault (Attempt ScannedCall) :=
  Attempt.of (makingCall hook) t.shown verbose do
    let site ← t.siteFor hook
    ScannedCall.ofHook (some site) t.record (.text t.record.title) hook

end RawTemplate

/-- The title for which a call is made a template: the text of the one that is named, or else the one that it had as a
template. -/
def ScannedCall.askedTitle (call : ScannedCall) : Value → Value
  | .null => .ofPlain call.record.templateTitle
  | v => v.titleText

/-- The template that the call is with the given title, or with the one that it had as a template. -/
def ScannedCall.toTemplate (call : ScannedCall) (title : Value := .null) (hierarchies : Value := .null)
    (verbose : Bool := false) : Except Fault (Attempt ScannedTemplate) :=
  match call.askedTitle title with
  | .null => Attempt.failed (.ok "convert to a template".toList) call.shown verbose .noTitle
  | .leaf (.unplaced title) => .error (.unwritable title.unwritable)
  | title =>
    Attempt.of (makingTemplate title) call.shown verbose
      (ScannedTemplate.ofTitle (some call.site) call.record title hierarchies)

end PageMarkup
