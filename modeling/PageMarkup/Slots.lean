import PageMarkup.Matching

/-!
# Lists of positional values

The parameters of a function call and of an embedded file are known by their index. A value that is deleted
without moving those behind it leaves a hole, and a value that is set beyond the end leaves holes before it.
Seen as a length with a partial function from indexes to texts, `set` and `delete` change one index each;
`get?_setAt` and `get?_eraseAt` are the equations.
-/
namespace PageMarkup

/-- A list of texts with holes. -/
structure Slots where
  items : List (Option Text)
  deriving DecidableEq

namespace Slots

def empty : Slots := ⟨[]⟩

def size (s : Slots) : Nat := s.items.length

def get? (s : Slots) (i : Nat) : Option Text := s.items[i]?.join

/-- The list with one more text behind all others. -/
def push (s : Slots) (value : Text) : Slots := ⟨s.items ++ [some value]⟩

/-- The list with the text at the index, behind as many holes as that takes. -/
def setAt (s : Slots) (i : Nat) (value : Text) : Slots :=
  if i < s.size then ⟨s.items.set i (some value)⟩
  else ⟨s.items ++ List.replicate (i - s.size) none ++ [some value]⟩

def eraseAt (s : Slots) (i : Nat) : Slots := ⟨s.items.eraseIdx i⟩

def clearAt (s : Slots) (i : Nat) : Slots := ⟨s.items.set i none⟩

/-- The texts by their index, without the holes. -/
def values (s : Slots) : List Text := s.items.filterMap id

/-- The texts by their index, with an empty text for each hole. -/
def strings (s : Slots) : List Text := s.items.map (·.getD [])

/-- The index that a value gives; truth values are no indexes. -/
def expectIndex : Value → Except Fault Int
  | .int n => .ok n
  | v => .error (.found .index v)

/-- The place that an index names, if it names one at all. -/
def place? (index : Int) : Option Nat := if 0 ≤ index then some index.toNat else none

/-- The list with the value behind all others. -/
def add (s : Slots) (value : Value) : Except Fault Slots := do
  let value ← value.expectText "value".toList
  return s.push value

def ofValues (values : List Value) : Except Fault Slots := values.foldlM add empty

def ofValue (values : Value) : Except Fault Slots := do ofValues (← values.expectItems)

def get (s : Slots) (index : Value) : Except Fault (Option Text) := do
  let index ← expectIndex index
  return (place? index).bind s.get?

/-- The list with the value at the index, and whether it was set. A text that is there is replaced only if
`overwrite` holds; with `ifExists` nothing is set where no text is. -/
def set (s : Slots) (value index : Value) (overwrite : Bool := true) (ifExists : Bool := false) :
    Except Fault (Bool × Slots) := do
  let value ← value.expectText "value".toList
  let index ← expectIndex index
  match place? index with
  | none => return (false, s)
  | some i =>
    if (s.get? i).isSome then return if overwrite then (true, s.setAt i value) else (false, s)
    else return if ifExists then (false, s) else (true, s.setAt i value)

def has (s : Slots) (index expected : Value) : Except Fault Bool := do
  match ← s.get index with
  | none => return false
  | some value => matchesExpected (some value) expected

/-- The texts with their indexes, holes left out. -/
def entries (s : Slots) : List (Nat × Text) :=
  s.items.zipIdx.filterMap fun entry => entry.1.map fun value => (entry.2, value)

/-- The list without the text at the index, and whether there was one. The texts behind it move up if
`shift` holds; otherwise it leaves a hole. -/
def delete (s : Slots) (index : Value) (shift : Bool := true) : Except Fault (Bool × Slots) := do
  let index ← expectIndex index
  match place? index with
  | none => return (false, s)
  | some i =>
    if (s.get? i).isSome then return (true, if shift then s.eraseAt i else s.clearAt i)
    else return (false, s)

def shown (s : Slots) : Text :=
  "<ParamList".toList ++ ['['] ++ Text.joinWith [',', ' '] (s.items.map Text.quotedOrNone) ++ [']', '>']

@[simp] theorem size_push (s : Slots) (value : Text) : (s.push value).size = s.size + 1 := by
  simp [push, size]

theorem size_setAt (s : Slots) (i : Nat) (value : Text) : (s.setAt i value).size = max s.size (i + 1) := by
  by_cases hi : i < s.items.length
  · have hset : (s.setAt i value).items = s.items.set i (some value) := by simp [setAt, size, hi]
    rw [size, hset, List.length_set, size]
    omega
  · have hset : (s.setAt i value).items = s.items ++ List.replicate (i - s.items.length) none ++ [some value] := by
      simp [setAt, size, hi]
    simp only [size, hset, List.length_append, List.length_replicate, List.length_singleton]
    omega

@[simp] theorem get?_push (s : Slots) (value : Text) (j : Nat) :
    (s.push value).get? j = if j = s.size then some value else s.get? j := by
  simp only [get?, push, size]
  by_cases h : j = s.items.length
  · simp [h]
  · by_cases hlt : j < s.items.length
    · simp [h, List.getElem?_append_left hlt]
    · rw [List.getElem?_eq_none (by simp; omega), List.getElem?_eq_none (by omega)]
      simp [h]

@[simp] theorem get?_setAt (s : Slots) (i j : Nat) (value : Text) :
    (s.setAt i value).get? j = if j = i then some value else s.get? j := by
  by_cases hi : i < s.size
  · have hset : (s.setAt i value).items = s.items.set i (some value) := by simp [setAt, hi]
    rw [get?, hset, List.getElem?_set]
    by_cases h : i = j
    · subst h; simp_all [size]
    · simp [get?, h, Ne.symm h]
  · have hset : (s.setAt i value).items = s.items ++ (List.replicate (i - s.items.length) none ++ [some value]) := by
      rw [setAt, if_neg hi]; simp [size]
    simp only [size] at hi
    rw [get?, hset]
    by_cases hlt : j < s.items.length
    · rw [List.getElem?_append_left hlt, if_neg (by omega), get?]
    · rw [List.getElem?_append_right (by omega)]
      by_cases h : j = i
      · subst h
        rw [List.getElem?_append_right (by simp)]
        simp
      · rw [if_neg h, get?, List.getElem?_eq_none (l := s.items) (by omega)]
        by_cases hji : j < i
        · rw [List.getElem?_append_left (by simp; omega), List.getElem?_replicate]
          split <;> simp
        · rw [List.getElem?_append_right (by simp; omega), List.getElem?_eq_none (by simp; omega)]

@[simp] theorem get?_clearAt (s : Slots) (i j : Nat) :
    (s.clearAt i).get? j = if j = i then none else s.get? j := by
  simp only [get?, clearAt, List.getElem?_set]
  by_cases h : i = j
  · subst h
    by_cases hi : i < s.items.length <;> simp [hi]
  · simp [h, Ne.symm h]

theorem get?_eraseAt (s : Slots) (i j : Nat) :
    (s.eraseAt i).get? j = if j < i then s.get? j else s.get? (j + 1) := by
  simp only [get?, eraseAt, List.getElem?_eraseIdx]
  split <;> rfl

end Slots

end PageMarkup
