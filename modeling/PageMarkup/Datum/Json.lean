import PageMarkup.Datum
import PageMarkup.Keyed
import PageMarkup.Text.Digit

/-!
# Data in JSON

Plain data are exchanged in JSON, as descriptions of sites are. The fields of a record keep their order, and of
two fields with one name the later one counts. A number with a fraction or an exponent keeps its exact value.
-/
namespace PageMarkup.Json

def isSeparator (c : Char) : Bool := c = ' ' || c = '\t' || c = '\n' || c = '\r'

def skip (s : Text) : Text := s.dropWhile isSeparator

def hexValue (c : Char) : Nat :=
  if c.isDigit then c.toNat - '0'.toNat
  else if 'a' ≤ c then c.toNat - 'a'.toNat + 10
  else c.toNat - 'A'.toNat + 10

/-- The code units of a quoted text, without its opening quote, and what follows its closing quote. -/
def readUnits : Text → Option (List Nat × Text)
  | [] => none
  | '\x22' :: rest => some ([], rest)
  | '\x5c' :: 'u' :: a :: b :: c :: d :: rest =>
    let unit := [a, b, c, d].foldl (fun n digit => n * 16 + hexValue digit) 0
    (readUnits rest).map fun (units, more) => (unit :: units, more)
  | '\x5c' :: c :: rest =>
    let named := match c with
      | 'n' => '\n'
      | 't' => '\t'
      | 'r' => '\r'
      | 'b' => '\x08'
      | 'f' => '\x0c'
      | c => c
    (readUnits rest).map fun (units, more) => (named.toNat :: units, more)
  | c :: rest => (readUnits rest).map fun (units, more) => (c.toNat :: units, more)

/-- The text of code units: a high and a low surrogate one after the other are one character. -/
def textOfUnits : List Nat → Text
  | [] => []
  | [unit] => [Char.ofNat unit]
  | high :: low :: rest =>
    if 0xD800 ≤ high ∧ high < 0xDC00 ∧ 0xDC00 ≤ low ∧ low < 0xE000 then
      Char.ofNat (0x10000 + (high - 0xD800) * 0x400 + (low - 0xDC00)) :: textOfUnits rest
    else Char.ofNat high :: textOfUnits (low :: rest)

/-- A quoted text, without its opening quote, and what follows it. -/
def readText (s : Text) : Option (Text × Text) :=
  (readUnits s).map fun (units, rest) => (textOfUnits units, rest)

/-- A number with its sign in front, and the natural number that is left of it. -/
def signed (numeral : Text) (read : Text → Nat) : Int :=
  match numeral with
  | '-' :: digits => -(read digits : Int)
  | '+' :: digits => read digits
  | digits => read digits

/-- The number `digits / 10 ^ places`, multiplied by `10 ^ exponent`. -/
def scaled (negative : Bool) (digits places : Nat) (exponent : Int) : Plain :=
  if (places : Int) ≤ exponent then .real negative (digits * Nat.pow 10 (exponent - places).toNat) 0
  else .real negative digits (places - exponent).toNat

def numberOf (numeral : Text) : Plain :=
  let (mantissa, exponent) := Text.cutAtFirst 'e' (Text.replaceChar 'E' 'e' numeral)
  let exponent := exponent.map fun e => signed e Text.decimal
  match Text.cutAtFirst '.' mantissa, exponent with
  | (whole, none), none => .int (signed whole Text.decimal)
  | (whole, part), exponent =>
    let part := part.getD []
    scaled (whole.head? = some '-') (signed (whole ++ part) Text.decimal).natAbs part.length (exponent.getD 0)

/-- Whether the character may stand in a numeral. -/
def isNumeralChar (c : Char) : Bool := c.isDigit || ['-', '+', '.', 'e', 'E'].contains c

mutual

/-- A datum that is nested at most `depth` deep, and what follows it. -/
def readDatum : Nat → Text → Option (Plain × Text)
  | 0, _ => none
  | depth + 1, s =>
    match skip s with
    | '\x22' :: rest => (readText rest).map fun (t, more) => (.text t, more)
    | '[' :: rest =>
      match skip rest with
      | ']' :: rest => some (.list [], rest)
      | rest => (readItems depth rest).map fun (items, more) => (.list items, more)
    | '\x7b' :: rest =>
      match skip rest with
      | '\x7d' :: rest => some (.record [], rest)
      | rest => (readFields depth rest).map fun (fields, more) =>
        (.record (fields.foldl (fun m field => Keyed.put field.1 field.2 m) []), more)
    | 'n' :: 'u' :: 'l' :: 'l' :: rest => some (.null, rest)
    | 't' :: 'r' :: 'u' :: 'e' :: rest => some (.bool true, rest)
    | 'f' :: 'a' :: 'l' :: 's' :: 'e' :: rest => some (.bool false, rest)
    | s => if (s.takeWhile isNumeralChar).isEmpty then none
      else some (numberOf (s.takeWhile isNumeralChar), s.dropWhile isNumeralChar)

/-- The items of a list up to its closing bracket, and what follows it. -/
def readItems : Nat → Text → Option (List Plain × Text)
  | 0, _ => none
  | depth + 1, s => do
    let (item, rest) ← readDatum depth s
    match skip rest with
    | ',' :: rest => do
      let (items, rest) ← readItems depth rest
      return (item :: items, rest)
    | ']' :: rest => return ([item], rest)
    | _ => none

/-- The fields of a record up to its closing brace, and what follows it. -/
def readFields : Nat → Text → Option (List (Text × Plain) × Text)
  | 0, _ => none
  | depth + 1, s => do
    let '\x22' :: rest := skip s | none
    let (key, rest) ← readText rest
    let ':' :: rest := skip rest | none
    let (d, rest) ← readDatum depth rest
    match skip rest with
    | ',' :: rest => do
      let (fields, rest) ← readFields depth rest
      return ((key, d) :: fields, rest)
    | '\x7d' :: rest => return ([(key, d)], rest)
    | _ => none

end

def read? (s : Text) : Option Plain :=
  match readDatum (s.length + 1) s with
  | some (d, rest) => if (skip rest).isEmpty then some d else none
  | none => none

/-- A character as it is written between quotes. -/
def writeChar (c : Char) : Text :=
  if c = '\x22' || c = '\x5c' then ['\x5c', c]
  else if c.toNat < 0x20 then ['\x5c', 'u'] ++ hexadecimal 4 c.toNat
  else [c]

def writeText (s : Text) : Text := ['\x22'] ++ s.flatMap writeChar ++ ['\x22']

mutual

def write : Plain → Text
  | .null => "null".toList
  | .bool b => if b then "true".toList else "false".toList
  | .int n => Text.ofInt n
  | .real negative digits places => Text.realNumeral negative digits places
  | .text s => writeText s
  | .list items => ['['] ++ Text.joinWith [','] (writeItems items) ++ [']']
  | .tuple items => ['['] ++ Text.joinWith [','] (writeItems items) ++ [']']
  | .record fields => ['\x7b'] ++ Text.joinWith [','] (writeFields fields) ++ ['\x7d']
  | .leaf a => a.elim

def writeItems : List Plain → List Text
  | [] => []
  | d :: rest => write d :: writeItems rest

def writeFields : List (Text × Plain) → List Text
  | [] => []
  | (key, d) :: rest => (writeText key ++ [':'] ++ write d) :: writeFields rest

end

end PageMarkup.Json
