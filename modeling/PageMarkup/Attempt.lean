import PageMarkup.Fault

/-!
# Attempts

Changes of titles and conversions between nodes do not fail on a title or a hook that does not fit. They are
attempts: without a result then, and with a report of the reason if the caller asks for one.
-/
namespace PageMarkup

/-- The result of an attempt, or a report of why there is none. -/
structure Attempt (α : Type) where
  result : Option α
  report : Option Text := none

namespace Attempt

/-- The report that `action` failed for a node. -/
def reportOf (action node : Text) (fault : Fault) : Except Unwritable Text := do
  return "Unable to ".toList ++ action ++ " for ".toList ++ node ++ ": ".toList ++ (← fault.message)

/-- The attempt that came to nothing because of a fault. The action is put into words in any case, and the report is
made of them if it is asked for; an action that cannot be put into words is a fault of its own. -/
def failed {α : Type} (action : Except Unwritable Text) (node : Text) (verbose : Bool) (fault : Fault) :
    Except Fault (Attempt α) := do
  let action ← action
  if verbose then return ⟨none, some (← reportOf action node fault)⟩ else return ⟨none, none⟩

/-- The attempt at an operation: what it yields, or a report of its fault. Other faults are passed on. -/
def of {α : Type} (action : Except Unwritable Text) (node : Text) (verbose : Bool) :
    Except Fault α → Except Fault (Attempt α)
  | .ok a => .ok ⟨some a, none⟩
  | .error fault => if fault.isReportable then failed action node verbose fault else .error fault

end Attempt

/-- An action with the value that it was asked to use. -/
def actionWith (action name : String) (v : Value) : Except Unwritable Text := do
  return action.toList ++ name.toList ++ ['='] ++ (← v.shown)

/-- The title and the number of parameters, as a node is written out in messages. -/
def shownNode (name : String) (title : Text) (size : Nat) : Text :=
  ['<'] ++ name.toList ++ ['['] ++ Text.quoted title ++ "][params=".toList ++ Text.ofNat size ++ "]>".toList

def settingTitle (v : Value) : Except Unwritable Text := actionWith "set " "title" v

end PageMarkup
