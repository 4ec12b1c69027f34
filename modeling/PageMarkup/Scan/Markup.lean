import PageMarkup.Scan.Board
import PageMarkup.Scan.Names

/-!
# Links, parameters and braces

How one construct is recognized on the board. Links and parameters are recognized from their ends, so that
the innermost ones come first; constructs in double braces are recognized from their starts, once everything
inside of them has been overwritten.
-/
namespace PageMarkup.Scan

/-- Whether the cell may belong to the title of a link or a template. -/
def isTitleCell (c : Char) : Bool :=
  !(['|', '\x7b', '\x7d', '[', ']', '<', '>', '\r', '\n', '\x02', '\x03'].contains c)

/-- Whether the cell is neither a square bracket nor a pipe. -/
def isPlainCell (c : Char) : Bool := c ≠ '[' && c ≠ ']' && c ≠ '|'

def isNoBrace (c : Char) : Bool := c ≠ '\x7b' && c ≠ '\x7d'

/-! ## Links -/

/-- Whether `count` closing brackets stand from `i` on, with nothing but absences before each. -/
def closersFrom (b : Board) : Nat → Nat → Bool
  | 0, _ => true
  | count + 1, i =>
    let j := b.skip isAbsent b.size i
    b.holds j ']' && closersFrom b count (j + 1)

/-- Whether the nearest cell before `i` that is not absent holds the character. -/
def follows (b : Board) (i : Nat) (c : Char) : Bool :=
  let j := b.skipBack isAbsent 0 i
  0 < j && b.holds (j - 1) c

/-- Whether the cell before `i`, and not before `start`, holds the character. -/
def endsWithAt (b : Board) (start i : Nat) (c : Char) : Bool := start < i && b.holds (i - 1) c

/-- The start of the double bracket that ends at `i`. -/
def doubleStart? (b : Board) (start i : Nat) (c : Char) : Option Nat :=
  if endsWithAt b start i c then
    let j := b.skipBack isAbsent start (i - 1)
    if endsWithAt b start j c then some (j - 1) else none
  else none

/-- The start of a bracketed piece that ends at `i`, together with the plain cells before it, or `i` itself. -/
def bracketedStart (b : Board) (start i : Nat) : Nat :=
  if endsWithAt b start i ']' && !closersFrom b 3 i then
    let j := b.skipBack isPlainCell start (i - 1)
    if endsWithAt b start j '[' then b.skipBack isPlainCell start (j - 1) else i
  else i

/-- The start of the last part of a link's text before `i`: a pipe, cells without brackets, and perhaps one
bracketed piece or a lone bracket. -/
def partStart? (b : Board) (start i : Nat) : Option Nat :=
  let i := bracketedStart b start (b.skipBack isPlainCell start i)
  let i := if endsWithAt b start i ']' && !follows b (i - 1) ']' then i - 1 else i
  let i := if endsWithAt b start i '[' && !follows b (i - 1) '[' then i - 1 else i
  if endsWithAt b start i '|' then some (i - 1) else none

/-- The start of the first part of a link's text, where the last one ends at `i`. -/
def partsStart (b : Board) (start i : Nat) : Nat :=
  match partStart? b start i with
  | some j => if j < i then partsStart b start j else i
  | none => i
termination_by i

/-- Whether an address outside of the wiki begins at `i`. -/
def isAddress (b : Board) (i : Nat) : Bool :=
  let i := b.skip (fun c => c = ' ' || isAbsent c) b.size i
  urlSchemes.any fun scheme =>
    b.reads b.size i scheme &&
      let j := i + scheme.length
      match b[j]? with
      | some '[' =>
        let k := b.skip (fun c => c.isDigit || ('a' ≤ c && c ≤ 'f') || ('A' ≤ c && c ≤ 'F') || c = ':' || c = '.')
          b.size (j + 1)
        j + 1 < k && b.holds k ']'
      | some c => !([' ', '\t', '\r', '\n', '\x22', '<', '>', ']'].contains c)
      | none => false

/-- The number of opening brackets right before `i`, and the index of the first of them. -/
def openersBefore (b : Board) (i : Nat) : Nat × Nat :=
  let j := b.skipBack isAbsent 0 i
  if 0 < j && j ≤ i && b.holds (j - 1) '[' then
    let (count, first) := openersBefore b (j - 1)
    (count + 1, if count = 0 then j - 1 else first)
  else (0, i)
termination_by i
decreasing_by simp_all; omega

/-- Whether the brackets before `i` take the first bracket of a link at `i` as one of their own. -/
def isClaimed (b : Board) (i : Nat) : Bool :=
  let (count, first) := openersBefore b i
  count % 2 = 1 && !(0 < first && b.holds (first - 1) absent)

/-- The start of the link that ends at `stop`. -/
def linkStart? (b : Board) (start stop : Nat) : Option Nat := do
  let closers ← doubleStart? b start stop ']'
  let target := b.skipBack isTitleCell start (partsStart b start closers)
  let first ← doubleStart? b start target '['
  if isAddress b target || isClaimed b first then none else some first

/-! ## Parameters -/

/-- Whether the cell at `i` may belong to a parameter: no curly bracket, or one that stands alone. -/
def isParameterCell (b : Board) (i : Nat) : Bool :=
  match b[i]? with
  | some '\x7d' => !(0 < i && b.holds (i - 1) '\x7d') && !b.holds (i + 1) '\x7d'
  | some '\x7b' => !(0 < i && b.holds (i - 1) '\x7b')
  | some _ => true
  | none => false

/-- The start of the cells of a parameter that end at `i`. -/
def parameterCells (b : Board) (start : Nat) : Nat → Nat
  | 0 => 0
  | i + 1 => if start < i + 1 && isParameterCell b i then parameterCells b start i else i + 1

/-- The start of the parameter that ends at `stop`. -/
def parameterStart? (b : Board) (start stop : Nat) : Option Nat :=
  if start + 3 ≤ stop && b.reads stop (stop - 3) ['\x7d', '\x7d', '\x7d'] then
    let first := parameterCells b start (stop - 3)
    if first < stop - 3 && start + 3 ≤ first && b.reads first (first - 3) ['\x7b', '\x7b', '\x7b'] then
      some (first - 3)
    else none
  else none

/-! ## Double braces -/

/-- The end of the arguments from `i` on: up to two curly brackets of one kind. -/
def argumentsEnd (b : Board) (stop i : Nat) : Nat :=
  if i < stop then
    let doubled (c : Char) : Bool := b.holds i c && i + 1 < stop && b.holds (i + 1) c
    if doubled '\x7b' || doubled '\x7d' then i else argumentsEnd b stop (i + 1)
  else i
termination_by stop - i

/-- The end of the closing braces behind the arguments that may stand from `i` on. -/
def bracesEnd? (b : Board) (stop i : Nat) : Option Nat :=
  let j := if i < stop && b.holds i '|' then argumentsEnd b stop (i + 1) else i
  if b.reads stop j ['\x7d', '\x7d'] then some (j + 2) else none

/-- The end of the function call whose content begins at `i`. -/
def functionEnd? (b : Board) (stop i : Nat) : Option Nat := do
  let i := b.skip isGap stop i
  let named ← if i < stop && b.holds i '#' then
      let j := b.skip (fun c => isNoBrace c && c ≠ ':' && c ≠ '|' && !isSpacing c) stop (i + 1)
      if i + 1 < j then some j else none
    else
      let j := b.skip isWordChar stop i
      if functionNames.contains (b.read ⟨i, j⟩) then some j else none
  let j := if named < stop && b.holds named ':' then b.skip isNoBrace stop (named + 1) else named
  if b.reads stop j ['\x7d', '\x7d'] then some (j + 2) else none

/-- The end of braces without a title, whose content begins at `i`. -/
def emptyEnd? (b : Board) (stop i : Nat) : Option Nat :=
  bracesEnd? b stop (b.skip (fun c => isGap c || c = '_') stop i)

/-- The end of the template whose content begins at `i`. -/
def templateEnd? (b : Board) (stop i : Nat) : Option Nat :=
  bracesEnd? b stop (b.skip isGap stop (b.skip isTitleCell stop (b.skip isGap stop i)))

/-- What begins with two braces at `i` and where it ends; braces without a title are of no kind. -/
def braceEnd? (b : Board) (stop i : Nat) : Option (Option Kind × Nat) :=
  if b.reads stop i ['\x7b', '\x7b'] then
    match functionEnd? b stop (i + 2) with
    | some j => some (some .function, j)
    | none =>
      match emptyEnd? b stop (i + 2) with
      | some j => some (none, j)
      | none => (templateEnd? b stop (i + 2)).map (some .template, ·)
  else none

end PageMarkup.Scan
