import PageMarkup.Report.Matching
import PageMarkup.Text.Lines

/-!
# Changes between two texts

The changes are reported in hunks, with some common lines before and behind each of them. Lines that are only
in the first text begin with a minus sign, lines that are only in the second one with a plus sign, and the
others with a space. Each kind of line has its colour on a terminal.
-/
namespace PageMarkup.Report

/-- Where lines begin and end, by index. It holds no lines if the end is not behind the beginning, and a negative index
counts from the end of the text. -/
structure Extent where
  start : Int
  stop : Int

/-- What is shown of a stretch. -/
structure Portion where
  common : Bool
  left : Extent
  right : Extent

namespace Portion

def ofStretch (s : Stretch) : Portion := ⟨s.common, ⟨s.left.start, s.left.stop⟩, ⟨s.right.start, s.right.stop⟩⟩

/-- What is compared if both texts are empty: a common line that is not there. -/
def void : Portion := ⟨true, ⟨0, 1⟩, ⟨0, 1⟩⟩

def keepLast (n : Int) (p : Portion) : Portion :=
  { p with left := ⟨max p.left.start (p.left.stop - n), p.left.stop⟩
           right := ⟨max p.right.start (p.right.stop - n), p.right.stop⟩ }

def keepFirst (n : Int) (p : Portion) : Portion :=
  { p with left := ⟨p.left.start, min p.left.stop (p.left.start + n)⟩
           right := ⟨p.right.start, min p.right.stop (p.right.start + n)⟩ }

end Portion

/-- The portions with at most `n` common lines at the beginning. -/
def trimFirst (n : Int) : List Portion → List Portion
  | p :: rest => if p.common then p.keepLast n :: rest else p :: rest
  | [] => []

/-- The portions with at most `n` common lines at the end. -/
def trimLast (n : Int) (portions : List Portion) : List Portion :=
  match portions.getLast? with
  | some p => if p.common then portions.dropLast ++ [p.keepFirst n] else portions
  | none => []

/-- The hunks of a list of portions, which is cut where more than `2 * n` lines are common. -/
def hunksFrom (n : Int) (hunk : List Portion) : List Portion → List (List Portion)
  | [] =>
    match hunk with
    | [] => []
    | [p] => if p.common then [] else [[p]]
    | more => [more]
  | p :: rest =>
    if p.common && 2 * n < p.left.stop - p.left.start then
      (hunk ++ [p.keepFirst n]) :: hunksFrom n [p.keepLast n] rest
    else hunksFrom n (hunk ++ [p]) rest

/-- The portions of the comparison of two lists of lines. -/
def portions (left right : List Text) : List Portion :=
  match stretches left right with
  | [] => [Portion.void]
  | found => found.map Portion.ofStretch

/-- The hunks of the comparison of two lists of lines, with `n` common lines around the changes. A negative number
cuts into the portions beside them. -/
def hunks (n : Int) (left right : List Text) : List (List Portion) :=
  hunksFrom n [] (trimLast n (trimFirst n (portions left right)))

/-- Whether all common lines are shown around the changes: those of the outer portions have a change on one side, and
those of the inner ones on both. `covers k size` says whether `k` times the number of lines to be shown is at
least `size`; of equal lists nothing is shown, but that takes a number that is not negative. -/
def showsAll (covers : Nat → Int → Bool) (portions : List Portion) : Bool :=
  match portions with
  | [only] => !only.common || covers 1 0
  | _ =>
    let fits (k : Nat) (p : Portion) : Bool := !p.common || covers k (p.left.stop - p.left.start)
    portions.head?.all (fits 1) && portions.getLast?.all (fits 1) && portions.all (fits 2)

/-- The lines of an extent, as the first one and their number. -/
def rangeText (extent : Extent) : Text :=
  let size := extent.stop - extent.start
  if size = 1 then Text.ofInt (extent.start + 1)
  else Text.ofInt (if size = 0 then extent.start else extent.start + 1) ++ [','] ++ Text.ofInt size

/-- A line of a report of changes. -/
inductive ChangeLine where
  | header (s : Text)
  | range (s : Text)
  | common (s : Text)
  | removed (s : Text)
  | added (s : Text)

/-- The number of lines before an index, which counts from the end if it is negative. -/
def boundIn (lines : List Text) (index : Int) : Nat := (if index < 0 then index + lines.length else index).toNat

def linesIn (lines : List Text) (extent : Extent) : List Text :=
  (lines.take (boundIn lines extent.stop)).drop (boundIn lines extent.start)

/-- The lines of a portion, those of the left side first. -/
def portionLines (left right : List Text) (p : Portion) : List ChangeLine :=
  if p.common then (linesIn left p.left).map .common
  else (linesIn left p.left).map .removed ++ (linesIn right p.right).map .added

def hunkLines (left right : List Text) (hunk : List Portion) : List ChangeLine :=
  match hunk.head?, hunk.getLast? with
  | some first, some last =>
    let range (side : Portion → Extent) : Text := rangeText ⟨(side first).start, (side last).stop⟩
    .range ("@@ -".toList ++ range (·.left) ++ " +".toList ++ range (·.right) ++ " @@".toList) ::
      hunk.flatMap (portionLines left right)
  | _, _ => []

/-- A line in one of the colours of a terminal. -/
def coloured (colour : Nat) (line : Text) : Text :=
  "\x1b[38;5;".toList ++ Text.ofNat colour ++ ['m'] ++ line ++ "\x1b[0m".toList

def ChangeLine.written : ChangeLine → Text
  | header s => s ++ ['\n']
  | range s => coloured 6 s ++ ['\n', '\n']
  | common s => ' ' :: s ++ ['\n']
  | removed s => coloured 1 ('-' :: s) ++ ['\n']
  | added s => coloured 2 ('+' :: s) ++ ['\n']

/-- How the two sides of a comparison are named, and how many common lines are shown around the changes. -/
structure ChangeStyle where
  leftName : Text := "expected".toList
  rightName : Text := "  actual".toList
  context : Int := 3

/-- The lines of a report of the changes from one text to another. -/
def changeLines (style : ChangeStyle) (left right : List Text) : List ChangeLine :=
  match hunks style.context left right with
  | [] => []
  | hunks =>
    .header ("--- ".toList ++ style.leftName) :: .header ("+++ ".toList ++ style.rightName) ::
      hunks.flatMap (hunkLines left right)

/-- The report of the changes from one text to another; it is empty if their lines are the
same, unless the number of lines around the changes is negative. -/
def changes (left right : Text) (style : ChangeStyle := {}) : Text :=
  (changeLines style (Text.lines left) (Text.lines right)).flatMap ChangeLine.written

end PageMarkup.Report
