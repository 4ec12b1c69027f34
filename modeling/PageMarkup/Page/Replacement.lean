import PageMarkup.Scan.Board

/-!
# Replacing nodes of a text

A replacement is asked for each of the nodes that were found in a text, from left to right and the outer ones
first. Nodes inside of one that is replaced are not asked about. The replacements are put in from the last to
the first, so that none of them moves a span that is still to be replaced.
-/
namespace PageMarkup

open Scan (Span)

/-- A text in place of a span. -/
structure Replacement where
  span : Span
  text : Text
  deriving DecidableEq

namespace Replacement

def apply (r : Replacement) (s : Text) : Text := s.take r.span.start ++ r.text ++ s.drop r.span.stop

/-- Puts replacements into a text, the last one first. -/
def applyAll (rs : List Replacement) (s : Text) : Text := rs.foldr apply s

end Replacement

/-- The order in which nodes are asked about: by their starts, and of two with one start the longer one first. -/
def Span.outerFirst (a b : Span) : Bool := a.start < b.start || (a.start == b.start && b.stop ≤ a.stop)

section

variable {m : Type → Type} [Monad m] {α : Type}

/-- The nodes that are asked about, each with its replacement if it gets one. Nodes that are not eligible and
those inside of a replaced span are passed over. -/
def consult (span : α → Span) (eligible : α → Bool) (edit : α → m (Option Text)) :
    List Span → List α → m (List (α × Option Text))
  | _, [] => pure []
  | replaced, node :: rest =>
    if eligible node && !replaced.any (·.covers (span node)) then do
      let replacement ← edit node
      let replaced := if replacement.isSome then replaced ++ [span node] else replaced
      let others ← consult span eligible edit replaced rest
      return (node, replacement) :: others
    else consult span eligible edit replaced rest

def replacementsOf (span : α → Span) (answers : List (α × Option Text)) : List Replacement :=
  answers.filterMap fun (node, replacement) => replacement.map fun text => ⟨span node, text⟩

/-- The text with the replacements of its nodes, and the nodes that were asked about in their order. -/
def replaceNodes (span : α → Span) (eligible : α → Bool) (edit : α → m (Option Text)) (s : Text) (nodes : List α) :
    m (Text × List α) := do
  let answers ← consult span eligible edit [] (nodes.mergeSort fun a b => Span.outerFirst (span a) (span b))
  return (Replacement.applyAll (replacementsOf span answers) s, answers.map (·.1))

end

end PageMarkup
