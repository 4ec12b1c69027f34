import PageMarkup.Datum.Members
import PageMarkup.Text.Digit

/-!
# Descriptions of sites

A site is described by a record, either bare or under the field `query`. The record comes in two formats. In
the older one names stand under `*`, a flag that is set is an empty text, and one that is not set is left out;
in the newer one names stand under `name` and `alias`, and flags are truth values. `Description.read` reads
both, and mixtures of them, and takes names and words as they are listed. `Description.site` asks that those which
count are texts.
-/
namespace PageMarkup

/-- A namespace as a description lists it. -/
structure ListedNamespace where
  id : Int
  name : Plain
  canonical : Plain
  aliases : List Plain
  titleCase : Plain

/-- A magic word as a description lists it. -/
structure ListedWord where
  name : Plain
  aliases : Plain
  caseSensitive : Bool

/-- An interwiki prefix as a description lists it. -/
structure ListedInterwiki where
  label : Plain
  url : Plain
  isLocal : Bool
  transcludes : Bool
  isLocalLink : Bool

/-- What a description lists for a site. -/
structure Description where
  name : Plain
  namespaces : List ListedNamespace
  words : List ListedWord
  functionHooks : Plain
  interwikis : List ListedInterwiki

namespace Description

def fields : Plain → Except Fault (List (Text × Plain))
  | .record fs => .ok fs
  | d => .error (.unsupported d.kind)

def entryFields : Plain → Except Fault (List (Text × Plain))
  | .record fs => .ok fs
  | d => .error (.notIterable d.kind)

def required (name : Text) (fs : List (Text × Plain)) : Except Fault Plain :=
  match fs.lookup name with
  | some d => .ok d
  | none => .error (.missingField name)

def itemsIn (d : Plain) : Except Fault (List Plain) :=
  match d.items? with
  | some items => .ok items
  | none => .error (.notIterable d.kind)

/-- The items of a field that may be left out. -/
def itemsOf (name : Text) (fs : List (Text × Plain)) : Except Fault (List Plain) :=
  itemsIn ((fs.lookup name).getD (.list []))

def textOf : Plain → Except Fault Text
  | .text s => .ok s
  | d => .error (.unsupported d.kind)

/-- The name that a namespace has, if it has one. -/
def nameOf : Plain → Except Fault (Option Text)
  | .null => .ok none
  | d => some <$> textOf d

/-- Whether the text consists of decimal digits, with single underscores between digits at most. -/
def isNumeral : Text → Bool
  | [] => false
  | [c] => isDecimal c
  | c :: '_' :: rest => isDecimal c && isNumeral rest
  | c :: rest => isDecimal c && isNumeral rest

/-- Whether the character may surround a numeral: a blank that is no separator of information. -/
def isNumeralBlank (c : Char) : Bool := isBlank c && !(0x1C ≤ c.toNat && c.toNat ≤ 0x1F)

/-- The integer that a text writes down, with a sign or without, between blanks or not. -/
def integerOfText? (s : Text) : Option Int :=
  let value? (numeral : Text) : Option Nat :=
    let digits := numeral.filter fun c => c ≠ '_'
    if isNumeral numeral && digits.length ≤ Text.maxNumeralDigits then some (Text.decimal digits) else none
  match ((s.dropWhile isNumeralBlank).reverse.dropWhile isNumeralBlank).reverse with
  | '-' :: digits => (value? digits).map fun n => -(n : Int)
  | '+' :: digits => (value? digits).map Int.ofNat
  | digits => (value? digits).map Int.ofNat

/-- The integer that an id gives, as a number or as a numeral. -/
def integerOf : Plain → Except Fault Int
  | .int n => .ok n
  | .bool b => .ok (if b then 1 else 0)
  | .real negative digits places =>
    let whole : Int := (digits / Nat.pow 10 places : Nat)
    .ok (if negative then -whole else whole)
  | .text s =>
    match integerOfText? s with
    | some n => .ok n
    | none => .error (.noNumeral s)
  | d => .error (.notIterable d.kind)

/-- Whether a flag is set: it is there, and it is an empty text or counts as true. -/
def flag (name : Text) (fs : List (Text × Plain)) : Bool :=
  match fs.lookup name with
  | none => false
  | some (.text []) => true
  | some d => d.truthy

/-! ## Reading -/

def readAlias (entry : Plain) : Except Fault (Int × Plain) := do
  let fs ← entryFields entry
  let name ← match fs.lookup "alias".toList with
    | some d => .ok d
    | none => required ['*'] fs
  return (← integerOf (← required "id".toList fs), name)

/-- A namespace that is listed under `key`, with those of the aliases that belong to it. -/
def readNamespace (aliases : List (Int × Plain)) (key : Text) (entry : Plain) : Except Fault ListedNamespace := do
  let fs ← fields entry
  let id ← integerOf ((fs.lookup "id".toList).getD (.text key))
  return {
    id
    name := (fs.lookup "name".toList).getD ((fs.lookup ['*']).getD (.text []))
    canonical := (fs.lookup "canonical".toList).getD .null
    aliases := (aliases.filter fun entry => entry.1 = id).map (·.2)
    titleCase := (fs.lookup "case".toList).getD (.text firstLetterSetting) }

def readWord (entry : Plain) : Except Fault ListedWord := do
  let fs ← entryFields entry
  let name ← required "name".toList fs
  let aliases ← itemsOf "aliases".toList fs
  return { name, aliases := .list aliases, caseSensitive := flag "case-sensitive".toList fs }

def readInterwiki (entry : Plain) : Except Fault ListedInterwiki := do
  let fs ← entryFields entry
  return {
    label := ← required "prefix".toList fs
    url := (fs.lookup "url".toList).getD (.text [])
    isLocal := flag "local".toList fs
    transcludes := flag "trans".toList fs
    isLocalLink := flag "localinterwiki".toList fs }

/-- The name of the server, if the description gives one. -/
def serverName (fs : List (Text × Plain)) : Except Fault Plain :=
  match fs.lookup "general".toList with
  | none => .ok .null
  | some (.record general) => .ok ((general.lookup "servername".toList).getD .null)
  | some d => .error (.notIterable d.kind)

/-- What a datum lists for a site. The name of the server stands in for a name that is not given. -/
def read (d : Plain) (name : Plain := .null) : Except Fault Description := do
  let outer ← fields d
  let query := (outer.lookup "query".toList).getD d
  let name ← match name with
    | .null => do serverName (← entryFields query)
    | given => .ok given
  let fs ← fields query
  let aliases ← (← itemsOf "namespacealiases".toList fs).mapM readAlias
  let spaces ← fields (← required "namespaces".toList fs)
  return {
    name
    namespaces := ← spaces.mapM fun entry => readNamespace aliases entry.1 entry.2
    words := ← (← itemsOf "magicwords".toList fs).mapM readWord
    interwikis := ← (← itemsOf "interwikimap".toList fs).mapM readInterwiki
    functionHooks := (fs.lookup "functionhooks".toList).getD (.list []) }

/-! ## Sites -/

/-- The namespaces that count: of two with one id, the later one. -/
def liveNamespaces (listing : Description) : Keyed Int ListedNamespace :=
  listing.namespaces.foldl (fun m space => Keyed.put space.id space m) []

def functions (listing : Description) : Except Fault (List Plain) := listing.functionHooks.expectMembers

end Description

open Description (textOf nameOf)

def ListedNamespace.named (space : ListedNamespace) : Except Fault Namespace := do
  return {
    id := space.id
    name := ← nameOf space.name
    canonical := ← nameOf space.canonical
    aliases := ← space.aliases.mapM nameOf
    titleCase := space.titleCase }

/-- The interwiki prefix, if its label is a text. -/
def ListedInterwiki.labelled (iw : ListedInterwiki) : Except Fault Interwiki := do
  return { label := ← textOf iw.label, url := iw.url, isLocal := iw.isLocal, transcludes := iw.transcludes
           isLocalLink := iw.isLocalLink }

/-- The magic word, if its name and its aliases are texts. -/
def ListedWord.written? (word : ListedWord) : Option MagicWord := do
  return { name := ← word.name.text?, aliases := ← (← word.aliases.items?).mapM Datum.text?
           caseSensitive := word.caseSensitive }

/-- The site that is listed. Words and functions that are no texts are none of its own. -/
def Description.site (listing : Description) : Except Fault Site := do
  let functions ← listing.functions
  let interwikis ← listing.interwikis.mapM ListedInterwiki.labelled
  let spaces ← listing.liveNamespaces.mapM fun entry => entry.2.named
  return Site.ofParts listing.name spaces (listing.words.filterMap ListedWord.written?)
    (functions.filterMap Datum.text?) interwikis

/-- The site that a description describes. The name of the server stands in for a name that is not given. -/
def Site.ofDescription (description : Plain) (name : Plain := .null) : Except Fault Site := do
  (← Description.read description name).site

end PageMarkup
