import PageMarkup.Scan.Board

/-!
# Matching lines of two texts

Two lists of lines are compared by their longest run of common lines, and then by the longest runs on either
side of it. A line that is very frequent in a long second list starts no run, but it may extend one.
-/
namespace PageMarkup.Report

open Scan (Span)

/-- A run of common lines: `size` lines from `left` on in the one list and from `right` on in the other. -/
structure Run where
  left : Nat
  right : Nat
  size : Nat
  deriving DecidableEq

/-- The two lists that are compared, with the indexes of the lines that runs may start from. -/
structure Sides where
  left : Array Text
  right : Array Text

namespace Sides

/-- From this length on very frequent lines start no run. -/
def longSide : Nat := 200

/-- The indexes of a line in the right list, or none if the line is very frequent in a long list. -/
def occurrences (sides : Sides) (line : Text) : List Nat :=
  let found := (List.range sides.right.size).filter fun j => sides.right[j]? == some line
  if longSide ≤ sides.right.size && sides.right.size / 100 + 1 < found.length then [] else found

/-- Whether the two lists have the same line at the given indexes. -/
def agree (sides : Sides) (i j : Nat) : Bool :=
  match sides.left[i]?, sides.right[j]? with
  | some a, some b => a == b
  | _, _ => false

/-- The lengths of the runs that end in line `i` of the left list, by their ends in the right one, given those
for the line before, and the longest run so far. -/
def extendRuns (i : Nat) (before : List (Nat × Nat)) (best : Run) : List Nat → List (Nat × Nat) × Run
  | [] => ([], best)
  | j :: rest =>
    let size := (if j = 0 then 0 else (before.lookup (j - 1)).getD 0) + 1
    let best := if best.size < size then ⟨i + 1 - size, j + 1 - size, size⟩ else best
    let (others, best) := extendRuns i before best rest
    ((j, size) :: others, best)

/-- The longest run among the lines from `i` on, `count` lines of the left list and a span of the right one. -/
def longestFrom (sides : Sides) (right : Span) (before : List (Nat × Nat)) (best : Run) (i : Nat) : Nat → Run
  | 0 => best
  | count + 1 =>
    let here := match sides.left[i]? with
      | some line => (sides.occurrences line).filter fun j => right.start ≤ j && j < right.stop
      | none => []
    let (runs, best) := extendRuns i before best here
    longestFrom sides right runs best (i + 1) count

def extendBack (sides : Sides) (left right : Span) : (i j size : Nat) → Run
  | i + 1, j + 1, size =>
    if left.start ≤ i && right.start ≤ j && sides.agree i j then extendBack sides left right i j (size + 1)
    else ⟨i + 1, j + 1, size⟩
  | i, j, size => ⟨i, j, size⟩

/-- The number of common lines from the given indexes on. -/
def commonFrom (sides : Sides) (left right : Span) (i j : Nat) : Nat :=
  if i < left.stop ∧ j < right.stop ∧ sides.agree i j then commonFrom sides left right (i + 1) (j + 1) + 1 else 0
termination_by left.stop - i

/-- The longest run in the given spans, the first one of those that are equally long. -/
def longestRun (sides : Sides) (left right : Span) : Run :=
  let core := sides.longestFrom right [] ⟨left.start, right.start, 0⟩ left.start (left.stop - left.start)
  let run := sides.extendBack left right core.left core.right core.size
  { run with size := run.size + sides.commonFrom left right (run.left + run.size) (run.right + run.size) }

/-- The runs in the given spans, in their order. -/
def runsIn (sides : Sides) (left right : Span) : List Run :=
  let run := sides.longestRun left right
  if 0 < run.size ∧ left.start ≤ run.left ∧ run.left + run.size ≤ left.stop then
    (if left.start < run.left ∧ right.start < run.right then
      runsIn sides ⟨left.start, run.left⟩ ⟨right.start, run.right⟩ else []) ++
    run ::
    (if run.left + run.size < left.stop ∧ run.right + run.size < right.stop then
      runsIn sides ⟨run.left + run.size, left.stop⟩ ⟨run.right + run.size, right.stop⟩ else [])
  else []
termination_by left.stop - left.start
decreasing_by all_goals (simp only [run] at *; omega)

end Sides

/-- The runs with those joined that touch each other on both sides. -/
def joinRuns : List Run → List Run
  | [] => []
  | run :: rest =>
    match joinRuns rest with
    | next :: others =>
      if run.left + run.size = next.left ∧ run.right + run.size = next.right then
        { run with size := run.size + next.size } :: others
      else run :: next :: others
    | [] => [run]

/-- A stretch of the comparison: lines that are common to both sides, or lines of the left side that lines of
the right side take the place of. -/
structure Stretch where
  common : Bool
  left : Span
  right : Span
  deriving DecidableEq

/-- The stretches from the given indexes on up to the ends of both sides. -/
def stretchesFrom (i j leftSize rightSize : Nat) : List Run → List Stretch
  | [] => if i < leftSize ∨ j < rightSize then [⟨false, ⟨i, leftSize⟩, ⟨j, rightSize⟩⟩] else []
  | run :: rest =>
    (if i < run.left ∨ j < run.right then [⟨false, ⟨i, run.left⟩, ⟨j, run.right⟩⟩] else []) ++
    ⟨true, ⟨run.left, run.left + run.size⟩, ⟨run.right, run.right + run.size⟩⟩ ::
      stretchesFrom (run.left + run.size) (run.right + run.size) leftSize rightSize rest

/-- The stretches of the comparison of two lists of lines. -/
def stretches (left right : List Text) : List Stretch :=
  let sides : Sides := ⟨left.toArray, right.toArray⟩
  stretchesFrom 0 0 left.length right.length
    (joinRuns (sides.runsIn ⟨0, left.length⟩ ⟨0, right.length⟩))

end PageMarkup.Report
