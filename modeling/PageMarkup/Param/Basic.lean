import PageMarkup.Matching

/-!
# Parameters of templates

A parameter is known by its key. A parameter that is written without a key is unnamed and gets a number for
its key. Values that it has superseded stay on record beside it.
-/
namespace PageMarkup

/-- A value that another one has taken the place of. -/
structure Superseded where
  key : Text
  value : Text
  unnamed : Bool
  deriving DecidableEq

/-- A parameter of a template. Its `source` is the text it was read from, as long as it stands for it, and nothing
otherwise. A caller may give anything for the source, but only texts can be written. -/
structure Param where
  key : Text
  value : Text
  unnamed : Bool
  superseded : List Superseded := []
  source : Value := .null

/-- A pipe and the value, behind its key unless it is unnamed. -/
def writeParam (unnamed : Bool) (key value : Text) : Text :=
  '|' :: ((if unnamed then [] else key ++ ['=']) ++ value)

/-- The superseded value as it would be written. -/
def Superseded.written (d : Superseded) : Text := writeParam d.unnamed d.key d.value

namespace Param

/-- The parameter as it would be written anew. -/
def canonical (p : Param) : Text := writeParam p.unnamed p.key p.value

/-- The text that the parameter was read from. -/
def sourceText? (p : Param) : Option Text := p.source.text?

/-- The source of the parameter if it is no text, so that it cannot be written. -/
def foreignSource? (p : Param) : Option Value :=
  match p.source with
  | .null | .text _ => none
  | source => some source

/-- The parameter as it was written, or as it would be written anew. -/
def written (p : Param) : Text := p.sourceText?.getD p.canonical

/-- What is left of the parameter when another one takes its place. -/
def asSuperseded (p : Param) : Superseded := ⟨p.key, p.value, p.unnamed⟩

/-- Whether two parameters agree in everything but the texts they were read from. -/
def same (p q : Param) : Bool :=
  p.key == q.key && p.value == q.value && p.unnamed == q.unnamed && p.superseded == q.superseded

end Param

/-- The number that a key denotes: decimal digits of any script behind a first one from `1` to `9`. -/
def keyNumber? : Text → Option Nat
  | c :: rest => if '1' ≤ c && c ≤ '9' && rest.all isDecimal then some (Text.decimal (c :: rest)) else none
  | [] => none

def isNumericKey (key : Text) : Bool := (keyNumber? key).isSome

/-- Whether a key denotes a number with more digits than are read. -/
def isOverlongKey (key : Text) : Bool := Text.maxNumeralDigits < key.length && isNumericKey key

/-- A parameter to begin with. A missing key and an empty one stand for an unnamed parameter. -/
structure Seed where
  value : Text
  key : Option Text := none
  source : Value := .null

/-- A parameter to begin with, in the form of the values that a caller passes. -/
structure SeedValue where
  value : Value
  key : Value := .null
  source : Value := .null

namespace SeedValue

/-- The seed that a value stands for: a seed, a record with a value, or a pair of a key and a value. -/
def ofValue : Value → Except Fault SeedValue
  | .leaf (.seed value key source) => .ok ⟨.ofPlain value, .ofPlain key, .ofPlain source⟩
  | .record fields =>
    match fields.lookup "value".toList with
    | some value => .ok ⟨value, (fields.lookup "key".toList).getD .null, .null⟩
    | none => .error (.missingField "value".toList)
  | .tuple [key, value] => .ok ⟨value, key, .null⟩
  | v => .error (.naming v .invalidParameter)

/-- The seed with texts for its parts. A key that counts as false stands for an unnamed parameter. -/
def toSeed (seed : SeedValue) : Except Fault Seed := do
  let key ← if seed.key.truthy then some <$> seed.key.expectText "key".toList else .ok none
  let value ← seed.value.expectText "value".toList
  return { value, key, source := seed.source }

end SeedValue

/-- Where a parameter is put among the others. -/
inductive Position where
  | start
  | finish
  | before (key : Text)
  | after (key : Text)
  deriving DecidableEq

namespace Position

def key? : Position → Option Text
  | start | finish => none
  | before key | after key => some key

/-- The place of a word, if the word stands for one. -/
private def placeOf (given : Value) (word : Text) : Except Fault Place :=
  match Place.ofWord? word with
  | some place => .ok place
  | none => .error (.naming given .invalidPosition)

private def ofPlace (given : Value) : Place → Except Fault Position
  | .start => .ok start
  | .finish => .ok finish
  | .before | .after => .error (.naming given .invalidPosition)

/-- The position that a value stands for: nothing, an end, or a record of one place and the key beside it. -/
def ofValue (given : Value) : Except Fault (Option Position) :=
  match given with
  | .null => .ok none
  | .text word => do return some (← ofPlace given (← placeOf given word))
  | .leaf (.place place) => some <$> ofPlace given place
  | .record [(word, key)] => do
    match ← placeOf given word with
    | .before => return some (before (Text.trim (← Value.expectText "position reference key".toList key)))
    | .after => return some (after (Text.trim (← Value.expectText "position reference key".toList key)))
    | _ => .error (.naming given .invalidPosition)
  | v => .error (.naming v .malformedPosition)

end Position

end PageMarkup
