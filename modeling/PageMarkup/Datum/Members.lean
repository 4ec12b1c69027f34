import PageMarkup.Fault

/-!
# Sets of data

Data that are the members of a set: all but lists and records can be, of those that are the same only the first one
counts, and they have an ascending order if all of them are texts or all of them are numbers.
-/
namespace PageMarkup

namespace Datum

variable {α : Type}

def expectHashable [Leaf α] (d : Datum α) : Except Fault (Datum α) :=
  match d.unhashable? with
  | none => .ok d
  | some kind => .error (.notHashable kind)

/-- The data without those that are the same as an earlier one. -/
def distinct [Leaf α] (ds : List (Datum α)) : List (Datum α) :=
  ds.foldl (fun seen d => if seen.any (·.same d) then seen else seen ++ [d]) []

/-- The members of the set that a datum stands for. -/
def expectMembers [Leaf α] (d : Datum α) : Except Fault (List (Datum α)) :=
  match d.items? with
  | some items => distinct <$> items.mapM expectHashable
  | none => .error (.notIterable d.kind)

/-- Whether a number is at most another one, given the digits and the decimal places of both. -/
def atMost : Int × Nat → Int × Nat → Bool
  | (m, p), (n, q) => m * (Nat.pow 10 q : Nat) ≤ n * (Nat.pow 10 p : Nat)

def ascending [Leaf α] (ds : List (Datum α)) : Except Fault (List (Datum α)) :=
  match ds.mapM text?, ds.mapM number? with
  | some texts, _ => .ok ((texts.mergeSort Text.precedes).map text)
  | none, some numbers =>
    .ok (((ds.zip numbers).mergeSort fun a b => atMost a.2 b.2).map (·.1))
  | none, none =>
    match ds with
    | [d] => .ok [d]
    | d :: _ => .error (.notOrdered d.kind)
    | [] => .ok []

end Datum

end PageMarkup
