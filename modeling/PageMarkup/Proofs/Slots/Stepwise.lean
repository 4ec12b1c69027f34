import PageMarkup.Slots

/-!
# Calls on positional values, step by step

A call looks at its arguments, looks the index up, and then writes, lengthens or shortens the list. The list itself takes
any index: one below zero counts from the end, and one that is that of no item is a fault, which would leave the list as
the steps before have made it. Here the calls are spelled out in these steps (`Edit.steps`). They come to what the
operations say, and where they fail the list is the one before (`steps_eq`): every index is looked at before it is used,
so that none below zero and none beyond the end gets to the list.
-/
namespace PageMarkup.Slots

/-! ## Calls -/

/-- A call that may change a list of positional values. -/
inductive Edit where
  | add (value : Value)
  | set (value index : Value) (overwrite ifExists : Bool)
  | delete (index : Value) (shift : Bool)

def call (s : Slots) : Edit → Except Fault Slots
  | .add value => s.add value
  | .set value index overwrite ifExists => Prod.snd <$> s.set value index overwrite ifExists
  | .delete index shift => Prod.snd <$> s.delete index shift

/-- The list after a call, which is the list before if the call is refused. -/
def after (s : Slots) (edit : Edit) : Slots :=
  match s.call edit with
  | .ok u => u
  | .error _ => s

/-- What a call yields with its answer, whether it has done what it was asked for. -/
def answered (s : Slots) : Edit → Except Fault (Bool × Slots)
  | .add value => (fun t => (true, t)) <$> s.add value
  | .set value index overwrite ifExists => s.set value index overwrite ifExists
  | .delete index shift => s.delete index shift

theorem call_eq_answered (s : Slots) (edit : Edit) : s.call edit = Prod.snd <$> s.answered edit := by
  cases edit with
  | add value =>
    rw [call, answered]
    cases s.add value <;> rfl
  | set value index overwrite ifExists => rfl
  | delete index shift => rfl

/-! ## Results -/

section

variable (s : Slots) (value : Text) (i : Nat) {index : Int} (overwrite ifExists shift : Bool)

theorem get?_of_size_le {s : Slots} {i : Nat} (h : s.size ≤ i) : s.get? i = none := by
  rw [get?, List.getElem?_eq_none h, Option.join_none]

theorem place?_natCast (i : Nat) : place? i = some i := by
  rw [place?, if_pos (Int.natCast_nonneg i), Int.toNat_natCast]

theorem place?_of_neg (h : index < 0) : place? index = none := if_neg (Int.not_le.mpr h)

theorem neg_or_natCast (index : Int) : index < 0 ∨ ∃ i : Nat, index = i :=
  (Int.lt_or_le index 0).imp_right Int.eq_ofNat_of_zero_le

theorem get_int (index : Int) : s.get (.int index) = .ok ((place? index).bind s.get?) := rfl

theorem set_int (index : Int) : s.set (.text value) (.int index) overwrite ifExists =
    match place? index with
    | none => .ok (false, s)
    | some i =>
      if (s.get? i).isSome then .ok (if overwrite then (true, s.setAt i value) else (false, s))
      else .ok (if ifExists then (false, s) else (true, s.setAt i value)) := rfl

theorem delete_int (index : Int) : s.delete (.int index) shift =
    match place? index with
    | none => .ok (false, s)
    | some i => if (s.get? i).isSome then .ok (true, if shift then s.eraseAt i else s.clearAt i) else .ok (false, s) := rfl

/-- A text is set unless there is one that must stay, or none where there has to be one. -/
theorem set_natCast : s.set (.text value) (.int i) overwrite ifExists =
    .ok (if (s.get? i).isSome ∧ overwrite = false ∨ (s.get? i).isNone ∧ ifExists = true then (false, s)
      else (true, s.setAt i value)) := by
  rw [set_int, place?_natCast]
  cases hget : s.get? i <;> cases overwrite <;> cases ifExists <;> simp [hget]

theorem set_of_neg (h : index < 0) : s.set (.text value) (.int index) overwrite ifExists = .ok (false, s) := by
  rw [set_int, place?_of_neg h]

theorem delete_natCast : s.delete (.int i) shift =
    .ok (if (s.get? i).isNone then (false, s) else (true, if shift then s.eraseAt i else s.clearAt i)) := by
  rw [delete_int, place?_natCast]
  cases hget : s.get? i <;> simp [hget]

theorem delete_of_neg (h : index < 0) : s.delete (.int index) shift = .ok (false, s) := by
  rw [delete_int, place?_of_neg h]

end

/-! ## Steps -/

/-- Steps on a list, one after the other. A fault ends them and leaves the list as it is then. -/
abbrev Steps (α : Type) := EStateM Fault Slots α

/-- The place that an index is taken for by the list itself, if there is an item at all. -/
def itemPlace? (s : Slots) (index : Int) : Option Nat :=
  let place := if index < 0 then index + s.size else index
  if 0 ≤ place ∧ place < s.size then some place.toNat else none

namespace Steps

/-- The list as it is then. -/
def current : Steps Slots := getThe Slots

/-- The place of an index, which has to be that of an item. -/
def placeOf (index : Int) : Steps Nat := do
  let s ← current
  match s.itemPlace? index with
  | some i => return i
  | none => throw (Fault.missingField (Text.ofInt index))

def read (index : Int) : Steps (Option Text) := do
  let i ← placeOf index
  let s ← current
  return s.get? i

def write (index : Int) (item : Option Text) : Steps Unit := do
  let i ← placeOf index
  modify fun s => ⟨s.items.set i item⟩

def remove (index : Int) : Steps Unit := do
  let i ← placeOf index
  modify fun s => ⟨s.items.eraseIdx i⟩

/-- Puts holes at the end. -/
def pad (count : Nat) : Steps Unit := modify fun s => ⟨s.items ++ List.replicate count none⟩

/-- The text at an index; there is none below zero and beyond the end. -/
def lookUp (index : Value) : Steps (Option Text) := do
  let i ← ofExcept (expectIndex index)
  let s ← current
  if 0 ≤ i ∧ i < s.size then read i else return none

/-- Puts a text at an index, behind as many holes as that takes. -/
def place (index : Int) (value : Text) : Steps Unit := do
  let s ← current
  pad (index + 1 - s.size).toNat
  write index (some value)

def add (value : Value) : Steps Bool := do
  let value ← ofExcept (value.expectText "value".toList)
  modify fun s => s.push value
  return true

def set (value index : Value) (overwrite ifExists : Bool) : Steps Bool := do
  let value ← ofExcept (value.expectText "value".toList)
  let i ← ofExcept (expectIndex index)
  if i < 0 then return false
  else do
    let found ← lookUp index
    if found.isSome ∧ overwrite = false ∨ found.isNone ∧ ifExists = true then return false
    else do
      place i value
      return true

def delete (index : Value) (shift : Bool) : Steps Bool := do
  let found ← lookUp index
  if found.isNone then return false
  else do
    let i ← ofExcept (expectIndex index)
    if shift then do
      remove i
      return true
    else do
      write i none
      return true

end Steps

/-- The steps of a call. -/
def Edit.steps : Edit → Steps Bool
  | .add value => Steps.add value
  | .set value index overwrite ifExists => Steps.set value index overwrite ifExists
  | .delete index shift => Steps.delete index shift

/-! ## What the steps come to -/

/-- What comes of a call that leaves the list where it fails. -/
def outcome {α : Type} (s : Slots) : Except Fault (α × Slots) → EStateM.Result Fault Slots α
  | .ok (a, t) => .ok a t
  | .error fault => .error fault s

namespace Steps

variable {s : Slots}

@[simp] theorem run_current (s : Slots) : current.run s = .ok s s := rfl

/-- An index of an item is taken as it is. -/
theorem itemPlace?_natCast {i : Nat} (hi : i < s.size) : s.itemPlace? i = some i := by
  have hnat : ¬ (i : Int) < 0 := by omega
  have hinside : 0 ≤ (i : Int) ∧ (i : Int) < s.size := by omega
  simp only [itemPlace?, if_neg hnat, if_pos hinside, Int.toNat_natCast]

theorem run_placeOf {i : Nat} (hi : i < s.size) : (placeOf i).run s = .ok i s := by
  simp [placeOf, itemPlace?_natCast hi]

theorem run_read {i : Nat} (hi : i < s.size) : (read i).run s = .ok (s.get? i) s := by
  rw [read, EStateM.run_bind, run_placeOf hi]
  rfl

theorem run_write {i : Nat} (hi : i < s.size) (item : Option Text) :
    (write i item).run s = .ok () ⟨s.items.set i item⟩ := by
  simp [write, run_placeOf hi]

theorem run_remove {i : Nat} (hi : i < s.size) : (remove i).run s = .ok () (s.eraseAt i) := by
  simp [remove, run_placeOf hi, eraseAt]

/-- What is looked up is what `get` says. -/
theorem run_lookUp (s : Slots) (index : Value) :
    (lookUp index).run s = outcome s ((fun found => (found, s)) <$> s.get index) := by
  cases index with
  | int index =>
    change (if 0 ≤ index ∧ index < s.size then read index else return none).run s = .ok ((place? index).bind s.get?) s
    obtain hneg | ⟨i, rfl⟩ := neg_or_natCast index
    · rw [if_neg (by omega), place?_of_neg hneg]
      rfl
    · rw [place?_natCast, Option.bind_some]
      by_cases hi : i < s.size
      · rw [if_pos (by omega), run_read hi]
      · rw [if_neg (by omega), get?_of_size_le (Nat.not_lt.mp hi)]
        rfl
  | _ => rfl

/-- An index below the size is written as it is, and one beyond it is that of the last item of the padded list. -/
theorem run_place (s : Slots) (i : Nat) (value : Text) : (place i value).run s = .ok () (s.setAt i value) := by
  let padded : Slots := ⟨s.items ++ List.replicate ((i : Int) + 1 - s.size).toNat none⟩
  have hpadded : (pad ((i : Int) + 1 - s.size).toNat).run s = .ok () padded := rfl
  have hsize : i < padded.size := by
    simp only [padded, size, List.length_append, List.length_replicate]
    omega
  have hset : (⟨padded.items.set i (some value)⟩ : Slots) = s.setAt i value := by
    by_cases hi : i < s.size
    · have hnone : ((i : Int) + 1 - s.size).toNat = 0 := by omega
      simp [padded, hnone, setAt, hi]
    · have hholes : ((i : Int) + 1 - s.size).toNat = i - s.size + 1 := by omega
      have hlast : i - s.items.length = (List.replicate (i - s.size) (none : Option Text)).length := by simp [size]
      simp only [padded, hholes, setAt, if_neg hi]
      rw [List.set_append_right _ _ (Nat.not_lt.mp hi), List.replicate_succ', hlast, List.set_append_right _ _ (Nat.le_refl _),
        Nat.sub_self, List.set_cons_zero, List.append_assoc]
  rw [place, EStateM.run_bind, run_current]
  dsimp only
  rw [EStateM.run_bind, hpadded]
  dsimp only
  rw [run_write hsize, hset]

theorem run_add (s : Slots) (value : Value) : (add value).run s = outcome s ((fun t => (true, t)) <$> s.add value) := by
  cases value <;> rfl

theorem run_set (s : Slots) (value index : Value) (overwrite ifExists : Bool) :
    (set value index overwrite ifExists).run s = outcome s (s.set value index overwrite ifExists) := by
  cases value with
  | text value =>
    cases index with
    | int index =>
      change (if index < 0 then return false else lookUp (.int index) >>= _).run s = _
      obtain hneg | ⟨i, rfl⟩ := neg_or_natCast index
      · rw [if_pos hneg, set_of_neg s value overwrite ifExists hneg]
        rfl
      · rw [if_neg (by omega), EStateM.run_bind, run_lookUp, get_int, place?_natCast, set_natCast, Option.bind_some]
        change (if (s.get? i).isSome ∧ overwrite = false ∨ (s.get? i).isNone ∧ ifExists = true then return false else do
          place i value
          return true : Steps Bool).run s = _
        split
        · rfl
        · rw [EStateM.run_bind, run_place]
          rfl
    | _ => rfl
  | _ => rfl

theorem run_delete (s : Slots) (index : Value) (shift : Bool) :
    (delete index shift).run s = outcome s (s.delete index shift) := by
  cases index with
  | int index =>
    rw [delete, EStateM.run_bind, run_lookUp, get_int]
    obtain hneg | ⟨i, rfl⟩ := neg_or_natCast index
    · rw [place?_of_neg hneg, delete_of_neg s shift hneg]
      rfl
    · rw [place?_natCast, delete_natCast]
      change (if (s.get? i).isNone then _ else _ : Steps Bool).run s = _
      split
      · rfl
      · rename_i hfound
        have hi : i < s.size := by
          refine Nat.not_le.mp fun hbeyond => hfound ?_
          rw [get?_of_size_le hbeyond]
          rfl
        cases shift with
        | false =>
          change (write i none >>= _).run s = _
          rw [EStateM.run_bind, run_write hi]
          rfl
        | true =>
          change (remove i >>= _).run s = _
          rw [EStateM.run_bind, run_remove hi]
          rfl
  | _ => rfl

end Steps

/-- A call, step by step, comes to what `answered` says, and where it fails, the list is the one before. -/
theorem steps_eq (s : Slots) (edit : Edit) : edit.steps.run s = outcome s (s.answered edit) := by
  cases edit with
  | add value => exact Steps.run_add s value
  | set value index overwrite ifExists => exact Steps.run_set s value index overwrite ifExists
  | delete index shift => exact Steps.run_delete s index shift

/-- Without a look at the index first, one below zero would be written at the end. -/
example : (Steps.write (-1) (some ['b'])).run ⟨[some ['a'], none]⟩ = .ok () ⟨[some ['a'], some ['b']]⟩ := rfl

theorem outcome_eq_ok {α : Type} {s t : Slots} {result : Except Fault (α × Slots)} {a : α} :
    outcome s result = .ok a t ↔ result = .ok (a, t) := by
  cases result <;> simp [outcome, Prod.ext_iff]

theorem outcome_eq_error {α : Type} {s t : Slots} {result : Except Fault (α × Slots)} {fault : Fault} :
    outcome s result = .error fault t ↔ result = .error fault ∧ t = s := by
  cases result <;> simp [outcome, eq_comm]

/-- The list that is left after steps, whether they failed or not. -/
def left {α : Type} : EStateM.Result Fault Slots α → Slots
  | .ok _ t => t
  | .error _ t => t

/-- The list after calls one after the other, each with all that its steps have done. -/
def runSteps (s : Slots) (edits : List Edit) : Slots := edits.foldl (fun s edit => left (edit.steps.run s)) s

theorem left_steps (s : Slots) (edit : Edit) : left (edit.steps.run s) = s.after edit := by
  rw [steps_eq, after, call_eq_answered]
  cases s.answered edit <;> rfl

end PageMarkup.Slots
