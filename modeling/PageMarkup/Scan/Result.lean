import PageMarkup.Scan.Passes
import PageMarkup.Text.Blank

/-!
# What a scan finds

The constructs of a text: those in double braces with their heads and arguments, and the links with their
targets and displays. `Scan.ofText` is the scan of a text. The parts of a construct are cut where the board
shows pipes that nothing inside of the construct has covered up, so joined by the pipes they are its text
again.
-/
namespace PageMarkup

open Scan (Board Span Mark Kind Progress)

/-- An argument of a construct in braces: what was written from its pipe on, its key if it has one, and its
value. -/
structure Argument where
  written : Text
  key : Option Text
  value : Text
  deriving DecidableEq

/-- A construct in double braces: its head, up to the first argument, and its arguments. -/
structure Brace where
  span : Span
  written : Text
  head : Text
  arguments : List Argument
  deriving DecidableEq

/-- A link: its target, and its display behind the first pipe if there is one. -/
structure Bracket where
  span : Span
  written : Text
  target : Text
  display : Option Text
  deriving DecidableEq

/-- The marks on a text: comments from left to right, and all else in the order of spans. -/
structure Scan where
  text : Text
  comments : List Mark
  marks : List Mark

namespace Scan

def ofText (s : Text) : Scan :=
  let range : Span := ⟨0, s.length⟩
  let tagged := scanTags 0 s.length ⟨Board.ofText s, []⟩
  let scanned := scanRange (s.length + 1) range tagged
  { text := s
    comments := (scanned.marks.filter fun m => m.kind = .comment).reverse
    marks := (scanned.marks.filter fun m => m.kind ≠ .comment).mergeSort fun a b => a.span.precedes b.span }

def marksOf (scan : Scan) (kind : Kind) : List Mark := scan.marks.filter fun m => m.kind = kind

def textAt (scan : Scan) (span : Span) : Text := Text.slice span.start span.stop scan.text

/-! ## Arguments -/

/-- Whether the cell separates lines, so that a heading may begin behind it or end in front of it. -/
def isBreak (c : Char) : Bool := c = '\n' || c = '\x0b' || c = '\x0c' || c = '\r'

/-- Whether the cell ends every line. The other breaks may stand inside of a heading. -/
def isLineEnd (c : Char) : Bool := c = '\n' || c = '\r'

/-- The length of what follows the opening signs of a heading, counted from `count` on: a text on one line, as short
as it can be, then `level` closing signs and blanks up to a break. -/
def headingRest? (level count : Nat) : Text → Option Nat
  | [] => none
  | c :: rest =>
    if isLineEnd c then none
    else
      let blanks := (rest.drop level).takeWhile fun c => c = ' ' || c = '\t' || isAbsent c
      if rest.take level = List.replicate level '=' && ((rest.drop level).drop blanks.length).head?.any isBreak then
        some (count + 1 + level + blanks.length)
      else headingRest? level (count + 1) rest

/-- The length of the heading between `level` signs, or fewer, that the cells begin with. -/
def headingUpTo? (cells : Text) : Nat → Option Nat
  | 0 => none
  | level + 1 => (headingRest? (level + 1) (level + 1) (cells.drop (level + 1))).or (headingUpTo? cells level)

/-- The length of the heading that the cells begin with: a text between as many signs, one to six, with a break
behind it. -/
def heading? (cells : Text) : Option Nat := headingUpTo? cells (min 6 (cells.takeWhile (· = '=')).length)

/-- The index of the sign that separates the key of an argument from its value, counted from `index` on. The
signs of headings separate nothing; `fresh` tells whether a line begins here. -/
def separatorFrom (fresh : Bool) (index : Nat) : Text → Option Nat
  | [] => none
  | c :: rest =>
    if c = '=' then
      match if fresh then heading? (c :: rest) else none with
      | some n => separatorFrom false (index + 1 + (n - 1)) (rest.drop (n - 1))
      | none => some index
    else separatorFrom (isBreak c) (index + 1) rest
termination_by cells => cells.length

/-- The argument that is written as `written` behind its pipe, with its cells on the board. -/
def argumentOf (cells written : Text) : Argument :=
  match separatorFrom false 0 cells with
  | some i => ⟨'|' :: written, some (written.take i), written.drop (i + 1)⟩
  | none => ⟨'|' :: written, none, written⟩

/-- The construct in braces that a mark stands for. -/
def braceOf (scan : Scan) (mark : Mark) : Brace :=
  let written := scan.textAt mark.span
  let inner {α : Type} (l : List α) : List α := (l.take (l.length - 2)).drop 2
  let parts := (pieces (fun x => x.1 == '|') ((inner mark.cells).zip (inner written))).map List.unzip
  { span := mark.span
    written
    head := (parts.head?.map (·.2)).getD []
    arguments := parts.tail.map fun part => argumentOf part.1 part.2 }

def bracketOf (scan : Scan) (mark : Mark) : Bracket :=
  let written := scan.textAt mark.span
  let gap (cells : Text) : Nat := ((cells.drop 1).takeWhile isAbsent).length + 2
  let before := gap mark.cells
  let behind := gap mark.cells.reverse
  let inner {α : Type} (l : List α) : List α := (l.take (l.length - behind)).drop before
  let pairs := (inner mark.cells).zip (inner written)
  let target := (pairs.takeWhile fun x => x.1 != '|').map (·.2)
  let display := match pairs.dropWhile fun x => x.1 != '|' with
    | [] => none
    | _ :: rest => some (rest.map (·.2))
  { span := mark.span, written, target, display }

/-- The constructs in double braces, in the order of their spans. -/
def braces (scan : Scan) : List Brace :=
  (scan.marks.filter fun m => m.kind = .template || m.kind = .function).map scan.braceOf

def brackets (scan : Scan) : List Bracket := (scan.marksOf .link).map scan.bracketOf

/-! ## Tags -/

/-- A start tag with its name. -/
structure StartTag where
  name : Text
  span : Span

/-- The start tags with the name, from left to right. Nothing has to separate the name from what follows. -/
def namedStartTags (name : Text) (b : Board) (i : Nat) : List StartTag :=
  if i < b.size then
    if b.reads b.size i ('<' :: name) then
      match b.behindAngle? b.size (i + 1 + name.length) with
      | some j => if i < j then ⟨name, ⟨i, j⟩⟩ :: namedStartTags name b j else []
      | none => namedStartTags name b (i + 1)
    else namedStartTags name b (i + 1)
  else []
termination_by b.size - i

/-- The first end tag with the name from `i` on. -/
def endTag? (name : Text) (b : Board) (i : Nat) : Option Span :=
  if i < b.size then
    let found := if b.reads b.size i ('<' :: '/' :: name) then endTagEnd? b b.size (i + 2 + name.length) else none
    match found with
    | some j => some ⟨i, j⟩
    | none => endTag? name b (i + 1)
  else none
termination_by b.size - i

def isSelfClosing (b : Board) (span : Span) : Bool :=
  ((b.read span).reverse.dropWhile fun c => [' ', '\t', '\r', '\n', '>'].contains c).head? == some '/'

/-- The spans of tags, given their start tags from the last to the first: each end tag is used once. -/
def pairTags : List StartTag → Board → List Span
  | [], _ => []
  | tag :: rest, b =>
    if isSelfClosing b tag.span then tag.span :: pairTags rest b
    else
      match endTag? tag.name b tag.span.stop with
      | some closing => ⟨tag.span.start, closing.stop⟩ :: pairTags rest (b.alterSpan (fun _ => '_') closing)
      | none => tag.span :: pairTags rest b

def extensionSpans (scan : Scan) : List Span := (scan.marksOf .extension).map (·.span)

/-- The spans of all tags: extension tags and the tags of the page. -/
def allTagSpans (scan : Scan) : List Span :=
  let b := Board.ofText scan.text
  let tags := (startTags b b.size 0).map fun span =>
    StartTag.mk (b.read ⟨span.start + 1, b.skip isWordChar b.size (span.start + 1)⟩) span
  scan.extensionSpans ++ pairTags tags.reverse b

def tagSpans (scan : Scan) (name : Text) : List Span :=
  if name.isEmpty then scan.allTagSpans
  else if openTags.contains name || closedTags.contains name then
    scan.extensionSpans.filter fun span =>
      let written := scan.textAt span
      Text.startsWith ('<' :: name) written &&
        match written[name.length + 1]? with
        | some c => !isWordChar c
        | none => false
  else
    let b := Board.ofText scan.text
    pairTags (namedStartTags name b 0).reverse b

end Scan

end PageMarkup
