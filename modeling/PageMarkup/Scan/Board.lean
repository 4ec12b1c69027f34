import PageMarkup.Text.Basic

/-!
# The board of a scan

A scan works on a board, a copy of the text with one cell for each character. Characters outside of ASCII
stand as question marks on it. What has been recognized is overwritten, so that it is not taken for something
else, and what is overwritten by a null counts as absent.
-/
namespace PageMarkup.Scan

/-- The cells that a scan reads and overwrites. -/
abbrev Board := Array Char

/-- The characters from index `start` up to index `stop`. -/
structure Span where
  start : Nat
  stop : Nat
  deriving DecidableEq

/-- The order of spans by their starts, and by their ends where these are equal. -/
def Span.precedes (a b : Span) : Bool := a.start < b.start || (a.start == b.start && a.stop ≤ b.stop)

def Span.covers (outer inner : Span) : Bool := outer.start ≤ inner.start && inner.stop ≤ outer.stop

/-- Whether the span holds the other one and is not the same. -/
def Span.encloses (outer inner : Span) : Bool := outer.covers inner && outer != inner

def absent : Char := '\x00'

def isAbsent (c : Char) : Bool := c = absent

/-- The blanks that separate words of markup. -/
def isSpacing (c : Char) : Bool := [' ', '\t', '\n', '\r', '\x0c', '\x0b'].contains c

def isGap (c : Char) : Bool := isSpacing c || isAbsent c

/-- Whether the character may stand in the name of a tag. -/
def isWordChar (c : Char) : Bool := c.isAlphanum || c = '_'

namespace Board

def ofText (s : Text) : Board := (s.map fun c => if c.toNat < 0x80 then c else '?').toArray

/-- Whether the cell at the index holds the character. -/
def holds (b : Board) (i : Nat) (c : Char) : Bool := b[i]? == some c

/-- The board with `g` applied to `count` cells from `start` on. -/
def alter (g : Char → Char) (start : Nat) : Nat → Board → Board
  | 0, b => b
  | count + 1, b => alter g start count (b.modify (start + count) g)

/-- The board with `g` applied to the cells of the span. -/
def alterSpan (g : Char → Char) (span : Span) (b : Board) : Board :=
  alter g span.start (span.stop - span.start) b

def read (b : Board) (span : Span) : Text := (b.extract span.start span.stop).toList

/-- The first index from `i` on, and at most `stop`, whose cell does not satisfy `p`. -/
def skip (p : Char → Bool) (b : Board) (stop i : Nat) : Nat :=
  if i < stop then
    match b[i]? with
    | some c => if p c then skip p b stop (i + 1) else i
    | none => i
  else i
termination_by stop - i

/-- The last index up to `i`, and at least `start`, such that the cell before it does not satisfy `p`. -/
def skipBack (p : Char → Bool) (b : Board) (start : Nat) : Nat → Nat
  | 0 => 0
  | i + 1 =>
    if start < i + 1 then
      match b[i]? with
      | some c => if p c then skipBack p b start i else i + 1
      | none => i + 1
    else i + 1

/-- Whether the cells from `i` on, and before `stop`, hold the text. -/
def reads (b : Board) (stop : Nat) : Nat → Text → Bool
  | _, [] => true
  | i, c :: rest => i < stop && b.holds i c && reads b stop (i + 1) rest

/-- The first index from `i` on at which the cells before `stop` hold the text. -/
def find? (b : Board) (stop : Nat) (s : Text) (i : Nat) : Option Nat :=
  if i < stop then if b.reads stop i s then some i else find? b stop s (i + 1) else none
termination_by stop - i

/-- The index behind the next `>` from `i` on. -/
def behindAngle? (b : Board) (stop i : Nat) : Option Nat := (b.find? stop ['>'] i).map (· + 1)

end Board

/-- What takes the place of markup that has been recognized. -/
def maskMarkup (c : Char) : Char :=
  if c = '=' then '\x01'
  else if c = '|' then '_'
  else if c = '[' then '\x02'
  else if c = ']' then '\x03'
  else if c = '\x27' || c = '\x7b' || c = '\x7d' then '_'
  else c

/-- The kinds of constructs that a scan finds. -/
inductive Kind where
  | comment
  | extension
  | parameter
  | function
  | template
  | link
  deriving DecidableEq

/-- A construct that has been found, with the cells that its span held at that moment. -/
structure Mark where
  kind : Kind
  span : Span
  cells : Text

/-- A scan at work: the board, and what has been found, the last one first. -/
structure Progress where
  board : Board
  marks : List Mark

namespace Progress

/-- The scan with one more construct, whose cells are then overwritten by `g`. -/
def record (p : Progress) (kind : Kind) (span : Span) (g : Char → Char) : Progress where
  board := p.board.alterSpan g span
  marks := ⟨kind, span, p.board.read span⟩ :: p.marks

def alter (p : Progress) (span : Span) (g : Char → Char) : Progress :=
  { p with board := p.board.alterSpan g span }

end Progress

end PageMarkup.Scan
