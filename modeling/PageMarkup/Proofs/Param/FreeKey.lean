import Mathlib.Data.List.Perm.Subperm
import Mathlib.Order.Bounds.Basic
import PageMarkup.Proofs.Param.Keys
import PageMarkup.Proofs.Text.Digits

/-!
# Numbers of unnamed parameters

The key of an unnamed parameter is the numeral of a positive number, and a numeral denotes the number that it was
written for. So the search for a free number ends at the least one that no live key denotes, and its numeral is not
live: `ParamTable.isLeast_leastFree` and `ParamTable.freeKey_notMem`.
-/
namespace PageMarkup

/-- A key that is the numeral of a positive number denotes it. -/
theorem keyNumber?_ofNat {n : Nat} (h : 0 < n) : keyNumber? (Text.ofNat n) = some n := by
  obtain ⟨c, rest, hnumeral, hlow, hhigh⟩ := Text.exists_ofNat_eq_cons h
  have hrest : rest.all isDecimal = true := by
    rw [List.all_eq_true]
    intro d hd
    have hdigit : d.isDigit = true := Text.isDigit_of_mem_ofNat (hnumeral ▸ List.mem_cons_of_mem c hd)
    simp [isDecimal, Text.decimalValue?_of_isDigit hdigit]
  have hvalue : Text.decimal (c :: rest) = n := by rw [← hnumeral, Text.decimal_ofNat]
  rw [hnumeral, keyNumber?, if_pos (by simp [hlow, hhigh, hrest]), hvalue]

/-! ## The least free number -/

namespace ParamTable

/-- The search passes over used numbers only. -/
theorem mem_of_lt_firstFree {used : List Nat} {bound n i : Nat} (hn : n ≤ i) (hi : i < firstFree used bound n) :
    i ∈ used := by
  induction bound generalizing n with
  | zero =>
    rw [firstFree] at hi
    omega
  | succ bound ih =>
    rw [firstFree] at hi
    split at hi
    · rename_i hused
      by_cases h : n = i
      · subst h
        simpa using hused
      · exact ih (by omega) hi
    · omega

theorem le_firstFree (used : List Nat) (bound n : Nat) : n ≤ firstFree used bound n := by
  induction bound generalizing n with
  | zero => exact Nat.le_refl n
  | succ bound ih =>
    rw [firstFree]
    split
    · exact Nat.le_trans (Nat.le_succ n) (ih (n + 1))
    · exact Nat.le_refl n

/-- The search ends at a free number, or it has taken all its steps. -/
theorem firstFree_cases (used : List Nat) (bound n : Nat) :
    firstFree used bound n ∉ used ∨ firstFree used bound n = n + bound := by
  induction bound generalizing n with
  | zero => exact Or.inr rfl
  | succ bound ih =>
    rw [firstFree]
    split
    · obtain hfree | hend := ih (n + 1)
      · exact Or.inl hfree
      · exact Or.inr (by omega)
    · rename_i hused
      exact Or.inl (by simpa using hused)

/-- With as many steps as there are numbers the search ends at a free one: otherwise one number more than there are
would be used. -/
theorem firstFree_notMem (used : List Nat) (n : Nat) : firstFree used used.length n ∉ used := by
  obtain hfree | hend := firstFree_cases used used.length n
  · exact hfree
  · intro hmem
    have hall : List.range' n (used.length + 1) ⊆ used := by
      intro i hi
      obtain ⟨hlow, hhigh⟩ := List.mem_range'_1.mp hi
      by_cases hlast : i = n + used.length
      · rwa [hlast, ← hend]
      · exact mem_of_lt_firstFree hlow (show i < firstFree used used.length n by omega)
    have hlength := (List.Nodup.subperm List.nodup_range' hall).length_le
    rw [List.length_range'] at hlength
    omega

/-- The positive numbers that none of the taken keys denotes. -/
def FreeNumbers (taken : Text → Prop) : Set Nat := {n | 0 < n ∧ ∀ key, taken key → keyNumber? key ≠ some n}

/-- The number for an unnamed parameter is the least positive one that no live key denotes. -/
theorem isLeast_leastFree (t : ParamTable) : IsLeast (FreeNumbers (· ∈ Keyed.keys t.live)) t.leastFree := by
  have hused : ∀ n, n ∈ t.live.filterMap (fun entry => keyNumber? entry.1) ↔
      ∃ key ∈ Keyed.keys t.live, keyNumber? key = some n := by
    intro n
    simp [Keyed.keys]
  constructor
  · refine ⟨le_firstFree _ _ 1, fun key hkey hnumber => ?_⟩
    exact firstFree_notMem _ 1 ((hused _).mpr ⟨key, hkey, hnumber⟩)
  · rintro n ⟨hpos, hfree⟩
    by_contra hlt
    obtain ⟨key, hkey, hnumber⟩ := (hused n).mp (mem_of_lt_firstFree hpos (not_le.mp hlt))
    exact hfree key hkey hnumber

theorem leastFree_pos (t : ParamTable) : 0 < t.leastFree := t.isLeast_leastFree.1.1

/-- The key for an unnamed parameter is not live. -/
theorem freeKey_notMem (t : ParamTable) : t.freeKey ∉ Keyed.keys t.live := fun hmem =>
  t.isLeast_leastFree.1.2 t.freeKey hmem (keyNumber?_ofNat t.leastFree_pos)

end ParamTable

end PageMarkup
