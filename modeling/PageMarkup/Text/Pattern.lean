import PageMarkup.Text.Digit

/-!
# Search patterns

A pattern is a row of conditions that are met one after the other: single characters, and the start and the
end of the text. The end is also met in front of a line feed that closes the text.
-/
namespace PageMarkup

/-- What one character may be. -/
inductive CharClass where
  | only (c : Char)
  | anyDecimal
  | oneOf (negated : Bool) (ranges : List (Char × Char)) (decimals : Bool)

def CharClass.contains : CharClass → Char → Bool
  | .only d, c => c = d
  | .anyDecimal, c => isDecimal c
  | .oneOf negated ranges decimals, c =>
    negated != (ranges.any (fun r => r.1.toNat ≤ c.toNat && c.toNat ≤ r.2.toNat) || (decimals && isDecimal c))

/-- One condition of a pattern. -/
inductive PatternPart where
  | atStart
  | atEnd
  | char (cls : CharClass)

/-- A pattern, together with the text it was read from. -/
structure Pattern where
  source : Text
  parts : List PatternPart

namespace Pattern

/-- The members of a class in brackets, and what stands behind the closing one. -/
private def readMembers (negated : Bool) (ranges : List (Char × Char)) (decimals : Bool) :
    Text → Option (CharClass × Text)
  | [] => none
  | ']' :: rest => some (.oneOf negated ranges.reverse decimals, rest)
  | '\x5c' :: 'd' :: rest => readMembers negated ranges true rest
  | '\x5c' :: c :: rest => readMembers negated ((c, c) :: ranges) decimals rest
  | a :: '-' :: b :: rest =>
    if b = ']' then readMembers negated ((a, a) :: ranges) decimals ('-' :: b :: rest)
    else readMembers negated ((a, b) :: ranges) decimals rest
  | c :: rest => readMembers negated ((c, c) :: ranges) decimals rest
termination_by s => s.length

/-- The conditions that a text writes down, read with at most `fuel` steps. -/
private def readParts : Nat → Text → Option (List PatternPart)
  | _, [] => some []
  | 0, _ => none
  | fuel + 1, '^' :: rest => (readParts fuel rest).map (.atStart :: ·)
  | fuel + 1, '$' :: rest => (readParts fuel rest).map (.atEnd :: ·)
  | fuel + 1, '\x5c' :: 'd' :: rest => (readParts fuel rest).map (.char .anyDecimal :: ·)
  | fuel + 1, '\x5c' :: c :: rest => (readParts fuel rest).map (.char (.only c) :: ·)
  | fuel + 1, '.' :: rest => (readParts fuel rest).map (.char (.oneOf true [('\n', '\n')] false) :: ·)
  | fuel + 1, '[' :: '^' :: rest => do
    let (cls, behind) ← readMembers true [] false rest
    let parts ← readParts fuel behind
    return .char cls :: parts
  | fuel + 1, '[' :: rest => do
    let (cls, behind) ← readMembers false [] false rest
    let parts ← readParts fuel behind
    return .char cls :: parts
  | fuel + 1, c :: rest => (readParts fuel rest).map (.char (.only c) :: ·)

def ofText? (source : Text) : Option Pattern :=
  (readParts source.length source).map fun parts => ⟨source, parts⟩

/-- Whether the conditions are met from here on; `first` tells whether this is the start of the text. -/
def meets (parts : List PatternPart) (first : Bool) (s : Text) : Bool :=
  match parts with
  | [] => true
  | .atStart :: more => first && meets more first s
  | .atEnd :: more => (s = [] || s = ['\n']) && meets more first s
  | .char cls :: more =>
    match s with
    | [] => false
    | c :: rest => cls.contains c && meets more false rest

/-- Whether the conditions are met from here on or from a later place on. -/
def meetsLater (parts : List PatternPart) (first : Bool) : Text → Bool
  | [] => meets parts first []
  | c :: rest => meets parts first (c :: rest) || meetsLater parts false rest

/-- Whether the pattern is met somewhere in the text. -/
def search (p : Pattern) (s : Text) : Bool := meetsLater p.parts true s

end Pattern

end PageMarkup
