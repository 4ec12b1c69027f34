import PageMarkup.Report.Changes
import PageMarkup.Report.Layout

/-!
# Mismatches

What is reported when a value is not the one that was expected: the changes between the two as they are laid
out, if these show a difference.
-/
namespace PageMarkup.Report

/-- A difference between what was expected and what was found. -/
inductive Mismatch where
  /-- The objects differ as the text says. -/
  | objects (changes : Text)
  /-- The texts differ as the text says. -/
  | texts (changes : Text)
  /-- No changes are shown, because none are visible or because a message stands in for them. -/
  | unexplained
  deriving DecidableEq

def Mismatch.message? : Mismatch → Option Text
  | objects changes => some ("Objects did not match:\n".toList ++ changes)
  | texts changes => some ("Strings did not match:\n".toList ++ changes)
  | unexplained => none

/-- The mismatch of two values, with a note behind the changes if there is one. -/
def compareValues (expected actual : Value) (note : Value := .null) : Except Unwritable (Option Mismatch) :=
  if expected.same actual then .ok none
  else
    let shown := changes (expected.layout.render) (actual.layout.render)
    if (Text.trim shown).isEmpty then .ok (some .unexplained)
    else do
      let tail ← if note.truthy then ('\n' :: ·) <$> note.inText else .ok []
      return some (.objects (shown ++ tail))

/-- The number of common lines around the changes between two texts. -/
def defaultContext : Int := 3

/-- The mismatch of two texts, with `context` common lines around the changes. A note stands in for the
changes. -/
def compareTexts (expected actual : Text) (note : Value := .null) (context : Int := defaultContext) : Option Mismatch :=
  if expected = actual then none
  else if note.truthy then some .unexplained
  else
    let shown := changes expected actual { context }
    if (Text.trim shown).isEmpty then some .unexplained else some (.texts shown)

/-- The number of common lines to be shown around the changes between two texts. A real number counts no lines, so it
is refused where some common lines are left out, and a sequence is refused where there are any. -/
def expectContext (v : Value) (left right : Text) : Except Fault Int :=
  let found := portions (Text.lines left) (Text.lines right)
  let all : Int := (Text.lines left).length
  match v, v.number? with
  | .real .., some (digits, places) =>
    if showsAll (fun k size => size * (Nat.pow 10 places : Nat) ≤ k * digits) found then .ok all
    else .error (.notJoinable v.kind)
  | _, some (n, _) => .ok n
  | .text _, _ | .list _, _ | .tuple _, _ => if found.all (!·.common) then .ok all else .error (.notJoinable v.kind)
  | _, _ => .error (.notJoinable v.kind)

/-- The report of the changes between two texts, with as many common lines around them as a value says. -/
def changesWithin (context : Value) (left right : Text) (style : ChangeStyle := {}) : Except Fault Text := do
  return changes left right { style with context := ← expectContext context left right }

/-- The mismatch of two values which have to be texts if there is one to be shown. -/
def compareAsTexts (expected actual : Value) (note : Value := .null) (context : Value := .int defaultContext) :
    Except Fault (Option Mismatch) :=
  if expected.same actual then .ok none
  else if note.truthy then .ok (some .unexplained)
  else
    match expected, actual with
    | .text s, .text t => do return compareTexts s t .null (← expectContext context s t)
    | _, _ => .error (.unsupported expected.kind)

end PageMarkup.Report
