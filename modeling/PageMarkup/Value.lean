import PageMarkup.Text.Pattern
import PageMarkup.Title.Basic

/-!
# Values

What a caller may pass where a text, a title, a key, an index or a position is expected. An operation that
takes a value decides what it is and refuses what it cannot use.
-/
namespace PageMarkup

/-- Where a parameter is put among the others. -/
inductive Place where
  | start
  | finish
  | before
  | after
  deriving DecidableEq

namespace Place

def word : Place → Text
  | start => "start".toList
  | finish => "end".toList
  | before => "before".toList
  | after => "after".toList

def ofWord? (s : Text) : Option Place := [start, finish, before, after].find? fun place => place.word == s

def inText (place : Place) : Text := "Position.".toList ++ Text.upper place.word

def shown (place : Place) : Text := ['<'] ++ place.inText ++ [':', ' '] ++ Text.quoted place.word ++ ['>']

end Place

/-- The forms of values beyond the plain ones. -/
inductive Special where
  | title (t : Title)
  | unplaced (t : UnplacedTitle)
  | pattern (p : Pattern)
  | place (p : Place)
  /-- A parameter to begin with: its value, its key and the text it was written as. -/
  | seed (value key source : Plain)
  /-- A function of the caller's, of which nothing is known but that it is one. -/
  | function

namespace Special

/-- The number of characters of a pattern, its first quote among them, that messages show. -/
def shownPatternLength : Nat := 200

private def patternShown (p : Pattern) : Text :=
  "re.compile(".toList ++ (Text.quoted p.source).take shownPatternLength ++ [')']

private def seedShown (value key source : Plain) : Except Unwritable Text := do
  return "ParamSeed(value=".toList ++ (← value.shown) ++ ", key=".toList ++ (← key.shown) ++ ", text=".toList ++
    (← source.shown) ++ [')']

private def functionShown : Text := "<function>".toList

instance : Leaf Special where
  kind
    | title _ | unplaced _ => "Title".toList
    | pattern _ => "Pattern".toList
    | place _ => "Position".toList
    | seed .. => "ParamSeed".toList
    | function => "function".toList
  unhashable?
    | unplaced t => some t.kind
    | seed value key source => (value.unhashable?.or key.unhashable?).or source.unhashable?
    | title _ | pattern _ | place _ | function => none
  shown
    | title t => .ok t.shown
    | unplaced t => .error t.unwritable
    | pattern p => .ok (patternShown p)
    | place p => .ok p.shown
    | seed value key source => seedShown value key source
    | function => .ok functionShown
  inText
    | title t => .ok t.inText
    | unplaced t => .error t.unwritable
    | pattern p => .ok (patternShown p)
    | place p => .ok p.inText
    | seed value key source => seedShown value key source
    | function => .ok functionShown
  same
    | title t, title u => t.same u
    | unplaced t, unplaced u => t.same u
    | pattern p, pattern q => p.source == q.source
    | place p, place q => p == q
    | seed v k s, seed v' k' s' => v.same v' && k.same k' && s.same s'
    | _, _ => false

end Special

abbrev Value := Datum Special

namespace Value

def title (t : Title) : Value := .leaf (.title t)

def place (p : Place) : Value := .leaf (.place p)

def pattern (p : Pattern) : Value := .leaf (.pattern p)

mutual

def ofPlain : Plain → Value
  | .null => .null
  | .bool b => .bool b
  | .int n => .int n
  | .real negative digits places => .real negative digits places
  | .text s => .text s
  | .list items => .list (ofPlainItems items)
  | .tuple items => .tuple (ofPlainItems items)
  | .record fields => .record (ofPlainFields fields)
  | .leaf a => a.elim

def ofPlainItems : List Plain → List Value
  | [] => []
  | d :: rest => ofPlain d :: ofPlainItems rest

def ofPlainFields : List (Text × Plain) → List (Text × Value)
  | [] => []
  | (key, d) :: rest => (key, ofPlain d) :: ofPlainFields rest

end

def ofText? : Option Text → Value
  | none => .null
  | some s => .text s

end Value

end PageMarkup
