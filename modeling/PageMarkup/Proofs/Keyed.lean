import Mathlib.Data.List.Induction
import Mathlib.Data.List.Nodup
import Mathlib.Data.List.Perm.Subperm
import PageMarkup.Keyed

/-!
# Maps as lists of entries

Putting an entry in never repeats a key (`Keyed.nodup_keys_put`), and where no key is repeated an entry is what its
key stands for (`Keyed.get?_of_mem`). What is found in a map that was filled entry by entry is one of those entries
(`Keyed.get?_foldl_put_cases`).
-/
namespace PageMarkup

namespace Keyed

variable {κ ν : Type} [DecidableEq κ]

theorem mem_keys_put {key other : κ} {value : ν} {m : Keyed κ ν} :
    other ∈ keys (put key value m) ↔ other = key ∨ other ∈ keys m := by
  induction m with
  | nil => simp [put, keys]
  | cons entry rest ih =>
    obtain ⟨k, v⟩ := entry
    simp only [keys] at ih
    by_cases h : k = key
    · subst h
      simp [put, keys]
    · simp only [put, if_neg h, keys, List.map_cons, List.mem_cons, ih]
      tauto

theorem nodup_keys_put (key : κ) (value : ν) {m : Keyed κ ν} (hm : (keys m).Nodup) :
    (keys (put key value m)).Nodup := by
  induction m with
  | nil => simp [put, keys]
  | cons entry rest ih =>
    obtain ⟨k, v⟩ := entry
    obtain ⟨hk, hrest⟩ := List.nodup_cons.mp hm
    by_cases h : k = key
    · subst h
      simpa [put, keys] using hm
    · have hnew : k ∉ keys (put key value rest) := by
        rw [mem_keys_put]
        exact not_or.mpr ⟨h, hk⟩
      have hput : keys (put key value ((k, v) :: rest)) = k :: keys (put key value rest) := by
        simp [put, h, keys]
      rw [hput]
      exact List.nodup_cons.mpr ⟨hnew, ih hrest⟩

/-- A key that is put in again keeps its place. -/
theorem keys_put_of_mem {key : κ} {m : Keyed κ ν} (h : key ∈ keys m) (value : ν) : keys (put key value m) = keys m := by
  induction m with
  | nil => simp [keys] at h
  | cons entry rest ih =>
    obtain ⟨k, v⟩ := entry
    by_cases hk : k = key
    · simp [put, hk, keys]
    · have hrest : key ∈ keys rest := (List.mem_cons.mp h).resolve_left (Ne.symm hk)
      simpa [put, hk, keys] using ih hrest

/-- An entry with a new key comes last. -/
theorem put_of_notMem {key : κ} {m : Keyed κ ν} (h : key ∉ keys m) (value : ν) :
    put key value m = m ++ [(key, value)] := by
  induction m with
  | nil => rfl
  | cons entry rest ih =>
    obtain ⟨k, v⟩ := entry
    obtain ⟨hk, hrest⟩ := List.ne_and_not_mem_of_not_mem_cons h
    simpa [put, Ne.symm hk] using ih hrest

/-- A key that is put in for the first time comes last. -/
theorem keys_put_of_notMem {key : κ} {m : Keyed κ ν} (h : key ∉ keys m) (value : ν) :
    keys (put key value m) = keys m ++ [key] := by
  rw [put_of_notMem h]
  simp [keys]

/-- A key that is put in again with the value it has changes nothing. -/
theorem put_self {key : κ} {value : ν} {m : Keyed κ ν} (h : get? key m = some value) : put key value m = m := by
  induction m with
  | nil => simp [get?] at h
  | cons entry rest ih =>
    obtain ⟨k, v⟩ := entry
    by_cases hk : k = key
    · have hv : v = value := by simpa [get?, hk] using h
      simp [put, hk, hv]
    · simpa [put, hk] using ih (by simpa [get?, hk] using h)

theorem length_put_le (key : κ) (value : ν) (m : Keyed κ ν) : (put key value m).length ≤ m.length + 1 := by
  induction m with
  | nil => simp [put]
  | cons entry rest ih =>
    obtain ⟨k, v⟩ := entry
    by_cases h : k = key
    · simp [put, h]
    · simpa [put, h] using ih

theorem length_erase_le (key : κ) (m : Keyed κ ν) : (erase key m).length ≤ m.length := List.length_filter_le _ _

theorem keys_erase_subset (key : κ) (m : Keyed κ ν) : keys (erase key m) ⊆ keys m :=
  (List.filter_sublist.map _).subset

theorem nodup_keys_erase (key : κ) {m : Keyed κ ν} (hm : (keys m).Nodup) : (keys (erase key m)).Nodup :=
  (List.filter_sublist.map _).nodup hm

theorem mem_keys_of_get? {key : κ} {value : ν} {m : Keyed κ ν} (h : get? key m = some value) : key ∈ keys m := by
  by_contra hnone
  simp [(get?_eq_none_iff key m).mpr hnone] at h

theorem get?_put_self (key : κ) (value : ν) (m : Keyed κ ν) : get? key (put key value m) = some value := by simp

theorem get?_put_of_ne {key other : κ} (h : key ≠ other) (value : ν) (m : Keyed κ ν) :
    get? other (put key value m) = get? other m := by simp [h]

/-- What is found in a map after one entry is put in is that entry or was there before. -/
theorem get?_put_cases {key other : κ} {value found : ν} {m : Keyed κ ν}
    (h : get? other (put key value m) = some found) :
    (other = key ∧ found = value) ∨ get? other m = some found := by
  rw [get?_put] at h
  split at h
  · rename_i heq
    exact Or.inl ⟨heq.symm, (Option.some.inj h).symm⟩
  · exact Or.inr h

/-- An entry is what its key stands for, as no other entry has that key. -/
theorem get?_of_mem {key : κ} {value : ν} {m : Keyed κ ν} (hm : (keys m).Nodup) (h : (key, value) ∈ m) :
    get? key m = some value := by
  induction m with
  | nil => simp at h
  | cons entry rest ih =>
    obtain ⟨k, v⟩ := entry
    obtain ⟨hk, hrest⟩ := List.nodup_cons.mp hm
    rcases List.mem_cons.mp h with heq | hmem
    · obtain ⟨rfl, rfl⟩ := Prod.mk.inj heq
      simp [get?]
    · have hne : k ≠ key := by
        rintro rfl
        exact hk (List.mem_map.mpr ⟨_, hmem, rfl⟩)
      simp [get?, hne, ih hrest hmem]

theorem mem_of_get? {key : κ} {value : ν} {m : Keyed κ ν} (h : get? key m = some value) : (key, value) ∈ m := by
  induction m with
  | nil => simp [get?] at h
  | cons entry rest ih =>
    obtain ⟨k, v⟩ := entry
    rw [get?] at h
    split at h
    · rename_i hk
      rw [hk, Option.some.inj h]
      exact List.mem_cons_self
    · exact List.mem_cons_of_mem _ (ih h)

theorem get?_append (key : κ) (m n : Keyed κ ν) : get? key (m ++ n) = (get? key m).or (get? key n) := by
  induction m with
  | nil => rfl
  | cons entry rest ih =>
    obtain ⟨k, v⟩ := entry
    by_cases h : k = key
    · simp [get?, h]
    · simpa [get?, h] using ih

theorem get?_map {μ : Type} (f : ν → μ) (key : κ) (m : Keyed κ ν) :
    get? key (m.map fun entry => (entry.1, f entry.2)) = (get? key m).map f := by
  induction m with
  | nil => rfl
  | cons entry rest ih =>
    obtain ⟨k, v⟩ := entry
    by_cases h : k = key
    · simp [get?, h]
    · simpa [get?, h] using ih

/-- Two lists of entries of one length, one of them without a repeated key, stand for the same map if and only if one is
the other rearranged. -/
theorem get?_eq_iff_perm {m n : Keyed κ ν} (hn : (keys n).Nodup) (hlength : m.length = n.length) :
    (∀ key, get? key m = get? key n) ↔ m.Perm n := by
  have hmem : ∀ {l : Keyed κ ν}, (keys l).Nodup → ∀ key value, (key, value) ∈ l ↔ get? key l = some value :=
    fun hl key value => ⟨get?_of_mem hl, mem_of_get?⟩
  constructor
  · intro h
    have hsubset : keys n ⊆ keys m := by
      intro key hkey
      by_contra hnone
      rw [← get?_eq_none_iff, h, get?_eq_none_iff] at hnone
      exact hnone hkey
    have hkeys : (keys n).Perm (keys m) :=
      (hn.subperm hsubset).perm_of_length_le (by simp [keys, hlength])
    have hm : (keys m).Nodup := hkeys.nodup_iff.mp hn
    rw [List.perm_ext_iff_of_nodup hm.of_map hn.of_map]
    rintro ⟨key, value⟩
    rw [hmem hm, hmem hn, h]
  · intro hperm key
    have hm : (keys m).Nodup := (hperm.map Prod.fst).nodup_iff.mpr hn
    ext value
    rw [← hmem hm, ← hmem hn]
    exact hperm.mem_iff

/-- What is found in a map after entries are put in is one of them or was there before. -/
theorem get?_foldl_put_cases {α : Type} {keyOf : α → κ} {valueOf : α → ν} {xs : List α} {m : Keyed κ ν} {key : κ}
    {value : ν} (h : get? key (xs.foldl (fun m x => put (keyOf x) (valueOf x) m) m) = some value) :
    (∃ x ∈ xs, keyOf x = key ∧ valueOf x = value) ∨ get? key m = some value := by
  induction xs generalizing m with
  | nil => exact Or.inr h
  | cons x xs ih =>
    obtain ⟨y, hy, hentry⟩ | hbefore := ih h
    · exact Or.inl ⟨y, List.mem_cons_of_mem x hy, hentry⟩
    · obtain ⟨hkey, hvalue⟩ | hold := get?_put_cases hbefore
      · exact Or.inl ⟨x, List.mem_cons_self, hkey.symm, hvalue.symm⟩
      · exact Or.inr hold

theorem nodup_keys_foldl_put {α : Type} (keyOf : α → κ) (valueOf : α → ν) (xs : List α) {m : Keyed κ ν}
    (hm : (keys m).Nodup) : (keys (xs.foldl (fun m x => put (keyOf x) (valueOf x) m) m)).Nodup := by
  induction xs generalizing m with
  | nil => exact hm
  | cons x xs ih => exact ih (nodup_keys_put _ _ hm)

/-- In a map that was filled entry by entry, a key stands for what was put in last. -/
theorem get?_foldl_put {α : Type} (keyOf : α → κ) (valueOf : α → ν) (xs : List α) (key : κ) :
    get? key (xs.foldl (fun m x => put (keyOf x) (valueOf x) m) []) =
      (xs.reverse.find? fun x => keyOf x = key).map valueOf := by
  induction xs using List.reverseRecOn with
  | nil => rfl
  | append_singleton xs x ih =>
    rw [List.foldl_append, List.foldl_cons, List.foldl_nil, get?_put, ih, List.reverse_append, List.reverse_singleton,
      List.singleton_append, List.find?_cons]
    by_cases h : keyOf x = key <;> simp [h]

/-- A map that was filled with entries none of whose keys is repeated is the list of them. -/
theorem foldl_put_of_nodup {α : Type} (keyOf : α → κ) (valueOf : α → ν) {xs : List α} (h : (xs.map keyOf).Nodup) :
    xs.foldl (fun m x => put (keyOf x) (valueOf x) m) [] = xs.map fun x => (keyOf x, valueOf x) := by
  induction xs using List.reverseRecOn with
  | nil => rfl
  | append_singleton xs x ih =>
    rw [List.map_append, List.map_singleton, List.nodup_append] at h
    obtain ⟨hxs, -, hdisjoint⟩ := h
    have hnew : keyOf x ∉ keys (xs.map fun x => (keyOf x, valueOf x)) := by
      intro hmem
      rw [keys, List.map_map] at hmem
      exact hdisjoint _ hmem _ (List.mem_singleton_self _) rfl
    rw [List.foldl_append, List.foldl_cons, List.foldl_nil, ih hxs, put_of_notMem hnew, List.map_append,
      List.map_singleton]

theorem mem_keys_foldl_put {α : Type} (keyOf : α → κ) (valueOf : α → ν) (xs : List α) (m : Keyed κ ν) (key : κ) :
    key ∈ keys (xs.foldl (fun m x => put (keyOf x) (valueOf x) m) m) ↔ key ∈ xs.map keyOf ∨ key ∈ keys m := by
  induction xs generalizing m with
  | nil => simp
  | cons x xs ih =>
    rw [List.foldl_cons, ih, mem_keys_put, List.map_cons, List.mem_cons]
    tauto

/-- In a map that was filled entry by entry, keys are in the order in which they were first put in. -/
theorem idxOf_keys_foldl_put_le_iff [BEq κ] [LawfulBEq κ] {α : Type} (keyOf : α → κ) (valueOf : α → ν) {xs : List α}
    {key other : κ} (hkey : key ∈ xs.map keyOf) (hother : other ∈ xs.map keyOf) :
    (keys (xs.foldl (fun m x => put (keyOf x) (valueOf x) m) [])).idxOf key ≤
        (keys (xs.foldl (fun m x => put (keyOf x) (valueOf x) m) [])).idxOf other ↔
      (xs.map keyOf).idxOf key ≤ (xs.map keyOf).idxOf other := by
  induction xs using List.reverseRecOn with
  | nil => simp at hkey
  | append_singleton xs x ih =>
    have hmem : ∀ k, k ∈ keys (xs.foldl (fun m x => put (keyOf x) (valueOf x) m) []) ↔ k ∈ xs.map keyOf := by
      simpa [keys] using mem_keys_foldl_put keyOf valueOf xs []
    rw [List.map_append, List.map_singleton] at hkey hother ⊢
    rw [List.foldl_append, List.foldl_cons, List.foldl_nil]
    generalize xs.foldl (fun m x => put (keyOf x) (valueOf x) m) [] = m at ih hmem ⊢
    by_cases hx : keyOf x ∈ xs.map keyOf
    · have hold : ∀ {k}, k ∈ xs.map keyOf ++ [keyOf x] → k ∈ xs.map keyOf := by
        intro k hk
        obtain hk | hk := List.mem_append.mp hk
        · exact hk
        · rwa [List.mem_singleton.mp hk]
      rw [keys_put_of_mem ((hmem _).mpr hx), List.idxOf_append_of_mem (hold hkey),
        List.idxOf_append_of_mem (hold hother)]
      exact ih (hold hkey) (hold hother)
    · -- a new key comes behind all others, in the map as in the list
      have hm : keyOf x ∉ keys m := mt (hmem _).mp hx
      have hlist : ∀ k ∈ xs.map keyOf, (xs.map keyOf).idxOf k < (xs.map keyOf).length :=
        fun k hk => List.idxOf_lt_length_iff.mpr hk
      have hkeys : ∀ k ∈ xs.map keyOf, (keys m).idxOf k < (keys m).length :=
        fun k hk => List.idxOf_lt_length_iff.mpr ((hmem k).mpr hk)
      rw [keys_put_of_notMem hm]
      simp only [List.idxOf_append, hmem]
      obtain hk | hk := List.mem_append.mp hkey <;> obtain ho | ho := List.mem_append.mp hother
      · rw [if_pos hk, if_pos ho, if_pos hk, if_pos ho]
        exact ih hk ho
      · obtain rfl := List.mem_singleton.mp ho
        rw [if_pos hk, if_neg hx, if_pos hk, if_neg hx]
        have := hlist key hk
        have := hkeys key hk
        omega
      · obtain rfl := List.mem_singleton.mp hk
        rw [if_pos ho, if_neg hx, if_pos ho, if_neg hx]
        have := hlist other ho
        have := hkeys other ho
        omega
      · rw [List.mem_singleton.mp hk, List.mem_singleton.mp ho]
        simp

omit [DecidableEq κ] in
/-- Where no key is repeated, the entry that is found is the one whose key is in front of those of the others. -/
theorem find?_eq_some_iff_idxOf [BEq κ] [LawfulBEq κ] {p : κ × ν → Bool} {m : Keyed κ ν} (hm : (keys m).Nodup)
    {found : κ × ν} :
    m.find? p = some found ↔ found ∈ m ∧ p found = true ∧
      ∀ other ∈ m, p other = true → (keys m).idxOf found.1 ≤ (keys m).idxOf other.1 := by
  induction m with
  | nil => simp
  | cons entry rest ih =>
    obtain ⟨hentry, hrest⟩ := List.nodup_cons.mp hm
    have hne : ∀ other ∈ rest, entry.1 ≠ other.1 :=
      fun other hother heq => hentry (List.mem_map.mpr ⟨other, hother, heq.symm⟩)
    have hbehind : ∀ other ∈ rest, (keys (entry :: rest)).idxOf other.1 = (keys rest).idxOf other.1 + 1 :=
      fun other hother => List.idxOf_cons_ne _ (hne other hother)
    have hhead : (keys (entry :: rest)).idxOf entry.1 = 0 := List.idxOf_cons_self
    cases hp : p entry with
    | true =>
      rw [List.find?_cons_of_pos hp, Option.some.injEq]
      constructor
      · rintro rfl
        exact ⟨List.mem_cons_self, hp, fun other _ _ => by omega⟩
      · rintro ⟨hmem, -, hfirst⟩
        obtain rfl | hmem := List.mem_cons.mp hmem
        · rfl
        · have hzero := hfirst entry List.mem_cons_self hp
          rw [hbehind found hmem, hhead] at hzero
          omega
    | false =>
      rw [List.find?_cons_of_neg (by simp [hp]), ih hrest]
      constructor
      · rintro ⟨hmem, hfound, hfirst⟩
        refine ⟨List.mem_cons_of_mem _ hmem, hfound, fun other hother hpother => ?_⟩
        obtain rfl | hother := List.mem_cons.mp hother
        · simp [hp] at hpother
        · rw [hbehind found hmem, hbehind other hother]
          exact Nat.succ_le_succ (hfirst other hother hpother)
      · rintro ⟨hmem, hfound, hfirst⟩
        obtain rfl | hmem := List.mem_cons.mp hmem
        · simp [hp] at hfound
        · refine ⟨hmem, hfound, fun other hother hpother => ?_⟩
          have hle := hfirst other (List.mem_cons_of_mem _ hother) hpother
          rw [hbehind found hmem, hbehind other hother] at hle
          exact Nat.le_of_succ_le_succ hle

end Keyed

end PageMarkup
