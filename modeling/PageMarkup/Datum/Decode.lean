import PageMarkup.Datum.Members
import PageMarkup.Function.Conversion
import PageMarkup.Link.Basic

/-!
# Records from data

The records of scanned constructs can also be given as data, with the fields under which they are handed out, and the
nodes of all kinds can be made from them. Of the fields, the title, the raw title and the text have to be there; others
that are left out have the values of a construct at the beginning of a text. A title, a raw title and parameters decide
what node is made. Nothing hangs on the other fields, so that there may be anything in them.
-/
namespace PageMarkup

namespace Datum

def fieldOrNull (name : String) (d : Plain) : Plain := (d.field? name.toList).getD .null

/-- The natural number that a datum is equal to. -/
def nat? (d : Plain) : Option Nat := d.integer?.map Int.toNat

/-- The items of a list that may be left out. -/
def expectItemsOf (name : String) (d : Plain) : Except Fault (List Plain) :=
  match (d.field? name.toList).map fun list => (list.items?, list.kind) with
  | none => .ok []
  | some (some items, _) => .ok items
  | some (none, kind) => .error (.notIterable kind)

/-- The fields of a record: all those that are needed, and none that is not known. -/
def expectFields (needed known : List String) (d : Plain) : Except Fault (List (Text × Plain)) :=
  match d with
  | .record fields =>
    if needed.all (fun name => (d.field? name.toList).isSome) &&
        fields.all (fun field => known.any fun name => name.toList == field.1) then .ok fields
    else .error .wrongArguments
  | _ => .error .wrongArguments

end Datum

open Datum (fieldOrNull nat?)

/-! ## Records -/

namespace Origin

def neededFields : List String := ["title", "raw_title", "text"]

/-- The fields in which there may be anything. -/
def freeFields : List String := ["text", "start_index", "end_index", "nest_level", "skip"]

/-- The origin that a datum describes, with the fields that are kept as they were given. -/
def ofData (free : List String) (d : Plain) : Origin :=
  let textAt (name : String) : Text := (fieldOrNull name d).text?.getD []
  let natAt (name : String) : Nat := (nat? (fieldOrNull name d)).getD 0
  { title := textAt "title"
    rawTitle := textAt "raw_title"
    written := textAt "text"
    span := ⟨natAt "start_index", natAt "end_index"⟩
    nestLevel := natAt "nest_level"
    skipped := (fieldOrNull "skip" d).truthy
    given := free.filterMap fun name => (d.field? name.toList).map fun value => (name.toList, value) }

end Origin

/-- The seed that a list of its value, its key and the text it was read from stands for. The last two may be left
out. -/
def SeedValue.ofData (d : Plain) : Except Fault SeedValue :=
  match d.items? with
  | some [value] => .ok { value := .ofPlain value }
  | some [value, key] => .ok { value := .ofPlain value, key := .ofPlain key }
  | some [value, key, source] => .ok ⟨.ofPlain value, .ofPlain key, .ofPlain source⟩
  | some _ => .error .wrongArguments
  | none => .error (.notIterable d.kind)

/-- The record of a construct in double braces that a datum describes. -/
def BraceRecord.ofData (d : Plain) : Except Fault BraceRecord := do
  let seeds ← (← d.expectItemsOf "params").mapM SeedValue.ofData
  discard (d.expectFields Origin.neededFields
    (Origin.neededFields ++ Origin.freeFields ++ ["params", "template_title"]))
  return { toOrigin := Origin.ofData Origin.freeFields d, seeds, templateTitle := fieldOrNull "template_title" d }

/-- The fields of the record of a link in which there may be anything. -/
def LinkRecord.freeFields : List String := Origin.freeFields ++ ["index", "parent", "display", "params"]

def LinkRecord.ofData (d : Plain) : Except Fault LinkRecord := do
  let children ← match d.field? "children".toList with
    | some children => do pure [("children".toList, Datum.list (← children.expectMembers))]
    | none => pure []
  discard (d.expectFields Origin.neededFields (Origin.neededFields ++ freeFields ++ ["children"]))
  let origin := Origin.ofData freeFields d
  return {
    toOrigin := { origin with given := origin.given ++ children }
    index := (nat? (fieldOrNull "index" d)).getD 0
    parent := nat? (fieldOrNull "parent" d)
    children := (← d.expectItemsOf "children").filterMap nat?
    display := (fieldOrNull "display" d).text?
    params := (fieldOrNull "params" d).items?.map fun items => items.filterMap Datum.text? }

/-! ## Nodes -/

/-- The title of the record that a datum describes, of whatever form it is. -/
def givenTitle (d : Plain) : Value := .ofPlain (fieldOrNull "title" d)

/-- Refuses a datum whose raw title is no text. -/
def expectRawTitle (d : Plain) : Except Fault Unit :=
  match fieldOrNull "raw_title" d with
  | .text _ => .ok ()
  | v => .error (.unsupported v.kind)

def ScannedTemplate.ofData (site : Option Site) (d : Plain) (hierarchies : Value := .null) :
    Except Fault ScannedTemplate := do
  let record ← BraceRecord.ofData d
  discard (Title.transcluded site (givenTitle d))
  let template ← ofRecord site record hierarchies
  expectRawTitle d
  return template

def RawTemplate.ofData (site : Option Site) (d : Plain) (hierarchies : Value := .null) :
    Except Fault RawTemplate := do
  let record ← BraceRecord.ofData d
  discard ((givenTitle d).expectText "title".toList)
  let template ← ofRecord site record hierarchies
  expectRawTitle d
  return template

def ScannedCall.ofData (site : Option Site) (d : Plain) : Except Fault ScannedCall := do
  let record ← BraceRecord.ofData d
  discard (FunctionCall.create site (givenTitle d))
  expectRawTitle d
  ofRecord site record

/-- The display of the record that a datum describes. -/
def expectGivenDisplay (d : Plain) : Except Fault Unit :=
  discard (expectDisplay (.ofPlain (fieldOrNull "display" d)))

def ScannedLink.ofData (site : Option Site) (d : Plain) : Except Fault ScannedLink := do
  let record ← LinkRecord.ofData d
  discard (Title.targeted site (givenTitle d))
  expectGivenDisplay d
  expectRawTitle d
  ofRecord site record

def ScannedFileLink.ofData (site : Option Site) (d : Plain) : Except Fault ScannedFileLink := do
  let record ← LinkRecord.ofData d
  discard (Title.embedded site (givenTitle d))
  let params := fieldOrNull "params" d
  if params.truthy then discard (Slots.ofValue (.ofPlain params))
  expectRawTitle d
  ofRecord site record

def ScannedRawLink.ofData (site : Option Site) (d : Plain) : Except Fault ScannedRawLink := do
  let record ← LinkRecord.ofData d
  discard ((givenTitle d).expectText "title".toList)
  expectGivenDisplay d
  expectRawTitle d
  return ofRecord site record

end PageMarkup
