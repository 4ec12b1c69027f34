import PageMarkup.Proofs.Keyed
import PageMarkup.Proofs.Outcome
import PageMarkup.Proofs.Param.Register

/-!
# Keys of tables

A table holds one parameter under each of its live keys: a registration puts a parameter in, perhaps after one
other is taken out, and neither step repeats a key (`ParamTable.distinctKeys_register`). So a table agrees with
itself parameter by parameter (`ParamTable.same_refl`), whatever chains tie its keys together.
-/
namespace PageMarkup

@[simp] theorem Param.same_refl (p : Param) : p.same p = true := by simp [Param.same]

namespace ParamTable

/-- No key of the table is live twice. -/
def DistinctKeys (t : ParamTable) : Prop := (Keyed.keys t.live).Nodup

theorem distinctKeys_empty (chains : List (List Text)) : (empty chains).DistinctKeys := List.nodup_nil

theorem DistinctKeys.addNew {t : ParamTable} (ht : t.DistinctKeys) (p : Param) (position : Option Position) :
    (t.addNew p position).DistinctKeys :=
  Keyed.nodup_keys_put _ _ ht

theorem DistinctKeys.replaceLive {t : ParamTable} (ht : t.DistinctKeys) (old p : Param)
    (position : Option Position) (initial : Bool) : (t.replaceLive old p position initial).DistinctKeys := by
  unfold ParamTable.replaceLive
  split
  · exact Keyed.nodup_keys_put _ _ ht
  · exact Keyed.nodup_keys_put _ _ ht

theorem DistinctKeys.recordBeside {t : ParamTable} (ht : t.DistinctKeys) (live : Text) (p : Param)
    (initial : Bool) : (t.recordBeside live p initial).DistinctKeys := by
  unfold ParamTable.recordBeside
  split
  · exact Keyed.nodup_keys_put _ _ ht
  · exact ht

theorem DistinctKeys.evict {t : ParamTable} (ht : t.DistinctKeys) (loser : Text) (p : Param)
    (position : Option Position) (initial : Bool) : (t.evict loser p position initial).DistinctKeys :=
  Keyed.nodup_keys_put _ _ (Keyed.nodup_keys_erase _ ht)

/-- Whatever a registration does to the table, no key becomes live twice. -/
theorem DistinctKeys.register {t : ParamTable} (ht : t.DistinctKeys) (r : Registration) :
    (t.register r).2.DistinctKeys := by
  obtain ⟨-, h⟩ | ⟨-, -, h⟩ | ⟨old, -, -, h⟩ | ⟨live, -, h⟩ | ⟨loser, -, h⟩ := t.register_cases r
  · rw [h]
    exact ht
  · rw [h]
    exact ht.addNew _ _
  · rw [h]
    exact ht.replaceLive _ _ _ _
  · rw [h]
    exact ht.recordBeside _ _ _
  · rw [h]
    exact ht.evict _ _ _ _

/-- A key that is live after a registration was live before, or is the key of what is registered. -/
theorem mem_keys_register {t : ParamTable} {r : Registration} {key : Text}
    (h : key ∈ Keyed.keys (t.register r).2.live) : key = (t.paramOf r).key ∨ key ∈ Keyed.keys t.live := by
  obtain ⟨-, hrun⟩ | ⟨-, -, hrun⟩ | ⟨old, -, -, hrun⟩ | ⟨live, -, hrun⟩ | ⟨loser, -, hrun⟩ := t.register_cases r
  · rw [hrun] at h
    exact Or.inr h
  · rw [hrun] at h
    exact Keyed.mem_keys_put.mp h
  · rw [hrun] at h
    unfold ParamTable.replaceLive at h
    split at h
    · exact Keyed.mem_keys_put.mp h
    · exact Keyed.mem_keys_put.mp h
  · rw [hrun] at h
    unfold ParamTable.recordBeside at h
    split at h
    · rename_i winner hwinner
      obtain rfl | hkey := Keyed.mem_keys_put.mp h
      · exact Or.inr (Keyed.mem_keys_of_get? hwinner)
      · exact Or.inr hkey
    · exact Or.inr h
  · rw [hrun] at h
    obtain hkey | hkey := Keyed.mem_keys_put.mp h
    · exact Or.inl hkey
    · exact Or.inr (Keyed.keys_erase_subset _ _ hkey)

/-- A registration makes at most one more key live. -/
theorem length_live_register_le (t : ParamTable) (r : Registration) :
    (t.register r).2.live.length ≤ t.live.length + 1 := by
  obtain ⟨-, hrun⟩ | ⟨-, -, hrun⟩ | ⟨old, -, -, hrun⟩ | ⟨live, -, hrun⟩ | ⟨loser, -, hrun⟩ := t.register_cases r
  · rw [hrun]
    exact Nat.le_succ _
  · rw [hrun]
    exact Keyed.length_put_le _ _ _
  · rw [hrun]
    unfold ParamTable.replaceLive
    split
    · exact Keyed.length_put_le _ _ _
    · exact Keyed.length_put_le _ _ _
  · rw [hrun]
    unfold ParamTable.recordBeside
    split
    · exact Keyed.length_put_le _ _ _
    · exact Nat.le_succ _
  · rw [hrun]
    exact Nat.le_trans (Keyed.length_put_le _ _ _) (Nat.succ_le_succ (Keyed.length_erase_le _ _))

theorem firstFree_le (used : List Nat) (bound n : Nat) : firstFree used bound n ≤ n + bound := by
  induction bound generalizing n with
  | zero => exact Nat.le_refl n
  | succ bound ih =>
    rw [firstFree]
    split
    · have hlater := ih (n + 1)
      omega
    · omega

/-- The least free number is at most the one behind all live keys. -/
theorem leastFree_le (t : ParamTable) : t.leastFree ≤ t.live.length + 1 := by
  have hbound := firstFree_le (t.live.filterMap fun entry => keyNumber? entry.1)
    (t.live.filterMap fun entry => keyNumber? entry.1).length 1
  have hused := List.length_filterMap_le (fun entry : Text × Param => keyNumber? entry.1) t.live
  unfold leastFree
  dsimp only
  omega

/-- A seed that is entered has texts for its parts and is added to the table. -/
theorem enterSeed_eq_ok {t u : ParamTable} {v : SeedValue} (h : t.enterSeed v = .ok u) :
    ∃ seed, v.toSeed = .ok seed ∧ u = t.addSeed seed := by
  unfold enterSeed at h
  obtain ⟨seed, hseed, h⟩ := Outcome.bind_eq_ok.mp h
  refine ⟨seed, hseed, ?_⟩
  dsimp only at h
  split at h
  · obtain ⟨-, -, h⟩ := Outcome.bind_eq_ok.mp h
    exact (Except.ok.inj h).symm
  · exact (Except.ok.inj h).symm

/-- No key is live twice in a table that was made of seeds. -/
theorem distinctKeys_ofSeedValues {seeds : List SeedValue} {chains : List (List Text)} {t : ParamTable}
    (h : ofSeedValues seeds chains = .ok t) : t.DistinctKeys := by
  refine Outcome.foldlM_invariant DistinctKeys ?_ (distinctKeys_empty chains) h
  intro t seed u ht hu
  obtain ⟨seed, -, rfl⟩ := enterSeed_eq_ok hu
  exact ht.register _

/-- A table agrees with itself. -/
theorem same_refl {t : ParamTable} (ht : t.DistinctKeys) : t.same t = true := by
  simp only [same, beq_self_eq_true, Bool.true_and, List.all_eq_true]
  rintro ⟨key, param⟩ hmem
  simp [Keyed.get?_of_mem ht hmem]

end ParamTable

end PageMarkup
