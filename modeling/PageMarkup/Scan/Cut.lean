import PageMarkup.Fault
import PageMarkup.Scan.Result

/-!
# Cutting texts along their markup

`stripComments` takes the comments out of a text, and `splitTopLevel` splits a text at the separators that no
construct encloses. Both are stated for a given list of spans first, so that what they do does not hang on
how the spans were found.
-/
namespace PageMarkup

open Scan (Span)

/-- The text without the characters in the spans, which come from left to right. -/
def removeSpans (s : Text) : List Span → Text
  | [] => s
  | span :: rest =>
    let cut := removeSpans s rest
    cut.take span.start ++ cut.drop (max span.start span.stop)

def commentOpening : Text := "<!--".toList

/-- The text without its comments, an unclosed one included. -/
def stripComments (s : Text) : Text :=
  if Text.includes commentOpening s then removeSpans s ((Scan.ofText s).comments.map (·.span)) else s

/-- The value without its comments. Lists and records have none, unless one of their items begins one. -/
def Value.stripComments : Value → Except Fault Value
  | .text s => .ok (.text (PageMarkup.stripComments s))
  | v => do
    if (← v.expectItems).any (·.same (.text commentOpening)) then .error (.notJoinable v.kind) else .ok v

/-- The spans of everything that a text may hold inside of it. -/
def nestedSpans (s : Text) : List Span :=
  let scan := Scan.ofText s
  (scan.marks.filter fun m => m.kind ≠ .extension).map (·.span) ++ scan.comments.map (·.span) ++ scan.allTagSpans

/-- The largest end of the spans that hold the index strictly inside. -/
def enclosingEnd? (spans : List Span) (i : Nat) : Option Nat :=
  ((spans.filter fun span => span.start < i && i < span.stop).map (·.stop)).max?

/-- The index of the first occurrence of `sep` from index `i` on. -/
def findFrom? (sep s : Text) (i : Nat) : Option Nat :=
  if i ≤ s.length then (Text.find? sep (s.drop i)).map (· + i) else none

/-- The pieces of the text between those separators that no span encloses. The first piece begins at
`start`, and the search goes on at `pos`. -/
def splitOutside (spans : List Span) (sep s : Text) (start pos : Nat) : List Text :=
  match findFrom? sep s pos with
  | none => [s.drop start]
  | some i =>
    match enclosingEnd? spans i with
    | some stop =>
      if pos < stop ∧ pos ≤ s.length then splitOutside spans sep s start stop else [s.drop start]
    | none =>
      if pos ≤ i ∧ pos ≤ s.length then Text.slice start i s :: splitOutside spans sep s (i + 1) (i + 1)
      else [s.drop start]
termination_by s.length + 1 - pos

/-- The pieces of the text between those separators that no construct in the text encloses. -/
def splitTopLevel (s : Text) (sep : Text := ['|']) : List Text := splitOutside (nestedSpans s) sep s 0 0

end PageMarkup
