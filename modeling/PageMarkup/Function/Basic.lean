import PageMarkup.Attempt
import PageMarkup.Hook.Table
import PageMarkup.Record
import PageMarkup.Slots

/-!
# Function calls

A call of a parser function is a hook that the site knows, with a list of positional parameters. The first
parameter stands directly behind the hook. In the record of a scanned call the title is the hook with the
first parameter; where comments interrupt the hook, its characters are looked for one after the other.
-/
namespace PageMarkup

/-- The hook that a value stands for, if the site knows it. -/
def Site.verifyHook (site : Site) : Value → Option VerifiedHook
  | .text s => site.hookTable.verify s
  | _ => none

/-- A call of a parser function. -/
structure FunctionCall where
  site : Site
  /-- The hook as it was written. -/
  hook : Text
  /-- The canonical form of the hook. -/
  canonical : Text
  params : Slots

namespace FunctionCall

/-- The call of the function with the given hook. A text behind the hook counts for nothing. -/
def create (site : Option Site) (hook : Value) (params : Value := .list []) : Except Fault FunctionCall := do
  let some site := site | .error (.unsupported "NoneType".toList)
  let some verified := site.verifyHook hook | .error (.invalidHook hook)
  let params ← Slots.ofValue params
  return { site, hook := verified.written, canonical := verified.canonical, params }

/-- The call with another hook, if the site knows it. -/
def setHook? (call : FunctionCall) (hook : Value) : Option FunctionCall :=
  (call.site.verifyHook hook).map fun verified =>
    { call with hook := verified.written, canonical := verified.canonical }

def shown (call : FunctionCall) (name : String := "ParserFunction") : Text :=
  shownNode name call.hook call.params.size

end FunctionCall

/-- The length of the shortest beginning of `text` in which all of `chars` occur one after the other. -/
def subsequenceEnd? : (chars text : Text) → Option Nat
  | [], _ => some 0
  | _ :: _, [] => none
  | c :: chars, d :: text => (subsequenceEnd? (if d = c then chars else c :: chars) text).map (· + 1)

/-- How a hook was written. -/
inductive HookFrame where
  /-- In one piece, behind other text. -/
  | whole (before : Text)
  /-- With other text in between. -/
  | interrupted (written : Text)
  deriving DecidableEq

/-- The text up to the end of a hook that was read as `scanned` and is now `hook`. A hook with other text in
between cannot be replaced inside of it. -/
def HookFrame.fill (frame : HookFrame) (scanned hook : Text) : Text :=
  match frame with
  | whole before => before ++ hook
  | interrupted written => if hook = scanned then written else hook

/-- A head that is split behind its hook. -/
structure HookSplit where
  frame : HookFrame
  firstParam : Text
  deriving DecidableEq

/-- Splits the raw title of a record behind the hook that its title begins with. -/
def HookSplit.ofOrigin (o : Origin) (hook : Text) : Except Fault HookSplit :=
  match Text.cutAtFirst titleMarker o.rawTitle with
  | (before, some behind) => .ok ⟨.whole before, (Text.trim o.title).drop hook.length ++ behind⟩
  | (_, none) =>
    match subsequenceEnd? hook o.rawTitle with
    | none => .error (.hookNotFound o.title o.rawTitle hook)
    | some stop =>
      let written := o.rawTitle.take stop
      let frame := if Text.endsWith hook written then .whole (written.take (stop - hook.length))
        else .interrupted written
      .ok ⟨frame, o.rawTitle.drop stop⟩

/-- What stands in front of the value of a seed: its key, if it has one. -/
def SeedValue.lead (seed : SeedValue) : Except Unwritable Text :=
  if seed.key.truthy then (· ++ ['=']) <$> seed.key.inText else .ok []

/-- A seed as a positional parameter: what was written behind its pipe, or its key and its value. -/
def SeedValue.positional (seed : SeedValue) : Except Fault Value :=
  match seed.source with
  | .text source => .ok (.text (source.drop 1))
  | .list items => .ok (.list (items.drop 1))
  | .null => do
    let lead ← seed.lead
    match seed.value with
    | .text value => return .text (lead ++ value)
    | v => .error (.notJoinable v.kind)
  | .record _ => .error (.notHashable "slice".toList)
  | source => .error (.noParts source.kind)

/-- A call of a parser function that was found by a scan. -/
structure ScannedCall extends FunctionCall where
  record : BraceRecord
  frame : HookFrame
  /-- The hook as it was read. -/
  scannedHook : Text

namespace ScannedCall

def ofRecord (site : Option Site) (record : BraceRecord) : Except Fault ScannedCall := do
  let some site := site | .error (.unsupported "NoneType".toList)
  let some verified := site.hookTable.verify record.title | .error (.invalidHook (.text record.title))
  let split ← HookSplit.ofOrigin record.toOrigin verified.written
  let params ← Slots.ofValue (.list (.text split.firstParam :: (← record.seeds.mapM SeedValue.positional)))
  return {
    site, hook := verified.written, canonical := verified.canonical, params
    record, frame := split.frame, scannedHook := verified.written }

/-- The head up to the end of the hook, as it was found. -/
def rawHook (call : ScannedCall) : Text := call.frame.fill call.scannedHook call.scannedHook

def setHook? (call : ScannedCall) (hook : Value) : Option ScannedCall :=
  (call.toFunctionCall.setHook? hook).map fun changed => { call with toFunctionCall := changed }

def shown (call : ScannedCall) : Text := call.toFunctionCall.shown "ParsedParserFunction"

def pristine (call : ScannedCall) : Except Fault ScannedCall := ofRecord (some call.site) call.record

end ScannedCall

end PageMarkup
