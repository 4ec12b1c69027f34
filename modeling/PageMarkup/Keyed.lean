/-!
# Keyed lists

Finite maps whose keys keep the order in which they were first put in. A key that is put in again keeps its
place and takes the new value.
-/
namespace PageMarkup

/-- A finite map from `κ` to `ν` that remembers the order of its keys. -/
abbrev Keyed (κ ν : Type) := List (κ × ν)

namespace Keyed

variable {κ ν : Type} [DecidableEq κ]

def get? (key : κ) : Keyed κ ν → Option ν
  | [] => none
  | (k, v) :: rest => if k = key then some v else get? key rest

def has (key : κ) (m : Keyed κ ν) : Bool := (get? key m).isSome

/-- The map with `value` for the key: at the place of the key if it has one, and at the end otherwise. -/
def put (key : κ) (value : ν) : Keyed κ ν → Keyed κ ν
  | [] => [(key, value)]
  | (k, v) :: rest => if k = key then (key, value) :: rest else (k, v) :: put key value rest

def erase (key : κ) (m : Keyed κ ν) : Keyed κ ν := m.filter fun entry => !decide (entry.1 = key)

def keys (m : Keyed κ ν) : List κ := m.map (·.1)

@[simp] theorem get?_put (key other : κ) (value : ν) (m : Keyed κ ν) :
    get? other (put key value m) = if key = other then some value else get? other m := by
  induction m with
  | nil => simp [put, get?]
  | cons entry rest ih =>
    obtain ⟨k, v⟩ := entry
    by_cases h : k = key
    · subst h
      by_cases ho : k = other <;> simp [put, get?, ho]
    · by_cases ho : k = other
      · subst ho; simp [put, get?, h, Ne.symm h]
      · simp [put, get?, h, ho, ih]

@[simp] theorem get?_erase (key other : κ) (m : Keyed κ ν) :
    get? other (erase key m) = if key = other then none else get? other m := by
  induction m with
  | nil => simp [erase, get?]
  | cons entry rest ih =>
    obtain ⟨k, v⟩ := entry
    simp only [erase] at ih ⊢
    by_cases h : k = key
    · subst h
      by_cases ho : k = other <;> simp_all [get?]
    · by_cases ho : k = other
      · subst ho; simp [get?, h, Ne.symm h]
      · simp [get?, h, ho, ih]

theorem get?_eq_none_iff (key : κ) (m : Keyed κ ν) : get? key m = none ↔ key ∉ keys m := by
  induction m with
  | nil => simp [get?, keys]
  | cons entry rest ih =>
    obtain ⟨k, v⟩ := entry
    simp only [keys] at ih
    by_cases h : k = key
    · simp [get?, keys, h]
    · simp [get?, keys, h, Ne.symm h, ih]

end Keyed

end PageMarkup
