import PageMarkup.Text.Digit
import PageMarkup.Text.Numeral
import PageMarkup.Text.Quoted

/-!
# Data

A datum is a value whose form is known only when it is looked at: the fields of a site's description, and
the arguments that a caller passes in. Its leaves of type `α` are values that have a form of their own.
-/
namespace PageMarkup

/-- A value of one of the plain forms, or a leaf. -/
inductive Datum (α : Type) where
  | null
  | bool (b : Bool)
  | int (n : Int)
  /-- The number `digits / 10 ^ places` with its sign, which a zero may have, too. -/
  | real (negative : Bool) (digits places : Nat)
  | text (s : Text)
  | list (items : List (Datum α))
  | tuple (items : List (Datum α))
  | record (fields : List (Text × Datum α))
  | leaf (a : α)

instance {α : Type} : Inhabited (Datum α) := ⟨.null⟩

abbrev Plain := Datum Empty

/-- Why a datum cannot be written out. -/
inductive Unwritable where
  /-- An integer has more digits than are written. -/
  | tooManyDigits
  /-- Something is looked up by a value of a kind by which nothing can be looked up. -/
  | notHashable (kind : Text)

def Unwritable.message : Unwritable → Text
  | tooManyDigits =>
    "Exceeds the limit (".toList ++ Text.ofNat Text.maxNumeralDigits ++
      " digits) for integer string conversion; use sys.set_int_max_str_digits() to increase the limit".toList
  | notHashable kind => "unhashable type: ".toList ++ Text.quoted kind

/-- How the leaves of data are named, looked up, shown in messages and in running text, and compared. -/
class Leaf (α : Type) where
  kind : α → Text
  /-- The kind of the part that keeps the leaf from being looked up, if there is one. -/
  unhashable? : α → Option Text
  shown : α → Except Unwritable Text
  inText : α → Except Unwritable Text
  same : α → α → Bool

instance : Leaf Empty := ⟨Empty.elim, Empty.elim, Empty.elim, Empty.elim, Empty.elim⟩

namespace Datum

variable {α : Type}

/-- The name of the form of a datum, as messages give it. -/
def kind [Leaf α] : Datum α → Text
  | null => "NoneType".toList
  | bool _ => "bool".toList
  | int _ => "int".toList
  | real .. => "float".toList
  | text _ => "str".toList
  | list _ => "list".toList
  | tuple _ => "tuple".toList
  | record _ => "dict".toList
  | leaf a => Leaf.kind a

/-- Whether the datum counts as true where a condition is asked for: empty things and zeros do not. -/
def truthy : Datum α → Bool
  | null => false
  | bool b => b
  | int n => n != 0
  | real _ digits _ => digits != 0
  | text s => !s.isEmpty
  | list items => !items.isEmpty
  | tuple items => !items.isEmpty
  | record fields => !fields.isEmpty
  | leaf _ => true

mutual

/-- The kind of the first part of the datum by which nothing can be looked up: a list or a record, also inside of a
tuple. -/
def unhashable? [Leaf α] : Datum α → Option Text
  | list _ => some "list".toList
  | record _ => some "dict".toList
  | tuple items => firstUnhashable? items
  | leaf a => Leaf.unhashable? a
  | null | bool _ | int _ | real .. | text _ => none

def firstUnhashable? [Leaf α] : List (Datum α) → Option Text
  | [] => none
  | d :: rest => (unhashable? d).or (firstUnhashable? rest)

end

/-- An integer as it is written out, unless it has too many digits. -/
def shownInt (n : Int) : Except Unwritable Text :=
  if Text.maxNumeralDigits < (Nat.toDigits 10 n.natAbs).length then .error .tooManyDigits else .ok (Text.ofInt n)

/-- A tuple, whose items are written out: one item alone has a comma behind it. -/
def shownTuple : List Text → Text
  | [one] => ['('] ++ one ++ [',', ')']
  | many => ['('] ++ Text.joinWith [',', ' '] many ++ [')']

mutual

/-- The datum as it is written out in messages, part by part from the first one on. It cannot be if a part cannot. -/
def shown [Leaf α] : Datum α → Except Unwritable Text
  | null => .ok "None".toList
  | bool b => .ok (Text.ofBool b)
  | int n => shownInt n
  | real negative digits places => .ok (Text.realNumeral negative digits places)
  | text s => .ok (Text.quoted s)
  | list items => do return ['['] ++ Text.joinWith [',', ' '] (← shownItems items) ++ [']']
  | tuple items => do return shownTuple (← shownItems items)
  | record fields => do return ['{'] ++ Text.joinWith [',', ' '] (← shownFields fields) ++ ['}']
  | leaf a => Leaf.shown a

def shownItems [Leaf α] : List (Datum α) → Except Unwritable (List Text)
  | [] => .ok []
  | d :: rest => do return (← shown d) :: (← shownItems rest)

def shownFields [Leaf α] : List (Text × Datum α) → Except Unwritable (List Text)
  | [] => .ok []
  | (key, d) :: rest => do return (Text.quoted key ++ [':', ' '] ++ (← shown d)) :: (← shownFields rest)

end

/-- The datum as it stands in running text: texts without quotes, leaves in their own way, and all else as it is
written out. -/
def inText [Leaf α] : Datum α → Except Unwritable Text
  | text s => .ok s
  | leaf a => Leaf.inText a
  | d => shown d

/-- The value of a number, as digits and decimal places; truth values count as one and zero. -/
def number? : Datum α → Option (Int × Nat)
  | bool b => some (if b then 1 else 0, 0)
  | int n => some (n, 0)
  | real negative digits places => some (if negative then -digits else digits, places)
  | _ => none

def integer? (d : Datum α) : Option Int :=
  match d.number? with
  | some (digits, places) =>
    let unit : Int := Nat.pow 10 places
    if digits % unit = 0 then some (digits / unit) else none
  | none => none

mutual

/-- Equality of data: numbers by value, records without regard to the order of their fields. -/
def same [Leaf α] : Datum α → Datum α → Bool
  | null, null => true
  | text s, text t => s == t
  | list items, list others => sameItems items others
  | tuple items, tuple others => sameItems items others
  | record fields, record others => fields.length == others.length && sameFields fields others
  | leaf a, leaf b => Leaf.same a b
  | a, b =>
    match a.number?, b.number? with
    | some (m, p), some (n, q) => m * (Nat.pow 10 q : Nat) == n * (Nat.pow 10 p : Nat)
    | _, _ => false

def sameItems [Leaf α] : List (Datum α) → List (Datum α) → Bool
  | [], [] => true
  | a :: rest, b :: others => same a b && sameItems rest others
  | _, _ => false

def sameFields [Leaf α] : List (Text × Datum α) → List (Text × Datum α) → Bool
  | [], _ => true
  | (key, a) :: rest, others =>
    (match others.lookup key with
      | some b => same a b
      | none => false) && sameFields rest others

end

/-- The items of a datum that can be gone through: characters of a text, items, or keys of a record. -/
def items? : Datum α → Option (List (Datum α))
  | text s => some (s.map fun c => text [c])
  | list items => some items
  | tuple items => some items
  | record fields => some (fields.map fun field => text field.1)
  | _ => none

def text? : Datum α → Option Text
  | text s => some s
  | _ => none

def field? (key : Text) : Datum α → Option (Datum α)
  | record fields => fields.lookup key
  | _ => none

end Datum

end PageMarkup
