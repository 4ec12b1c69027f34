import PageMarkup.Proofs.Outcome
import PageMarkup.Proofs.Param.Keys
import PageMarkup.Proofs.Text.Trim

/-!
# Calls on tables

A table is made of seeds and then changed by calls, with whatever values a caller passes. A call that is refused leaves
the table as it is, and every other one registers a parameter or deletes one. So what holds of the empty table and is
kept by registering and deleting holds of every table there is: `ParamTable.Reached` is the induction for it.
-/
namespace PageMarkup.ParamTable

/-- A call that may change a table. -/
inductive Edit where
  | insert (key value : Value) (overwrite : Bool) (position : Value)
  | update (key value : Value)
  | delete (key : Value) (resolved : Bool)
  /-- The copy of the table takes its place. -/
  | copy

/-- What a call yields: whether it has done what it was asked for, and the table. -/
def call (t : ParamTable) : Edit → Except Fault (Bool × ParamTable)
  | .insert key value overwrite position => t.insert key value overwrite position
  | .update key value => t.update key value
  | .delete key resolved => t.delete key resolved
  | .copy => (fun u => (true, u)) <$> t.copy

/-- The table after a call, which is the table before if the call is refused. -/
def after (t : ParamTable) (edit : Edit) : ParamTable :=
  match t.call edit with
  | .ok (_, u) => u
  | .error _ => t

/-- The table after calls one after the other. -/
def run (t : ParamTable) (edits : List Edit) : ParamTable := edits.foldl after t

/-- The tables with these chains that come from the empty one by registering and deleting. -/
inductive Reached (chains : List (List Text)) : ParamTable → Prop where
  | empty : Reached chains (empty chains)
  | register {t : ParamTable} (ht : Reached chains t) (r : Registration) : Reached chains (t.register r).2
  | erase {t : ParamTable} (ht : Reached chains t) (key : Text) : Reached chains (t.erase key)

/-! ## Chains -/

/-- Whether no key of the chains has a blank at an end. -/
def TrimmedChains (chains : List (List Text)) : Prop := ∀ chain ∈ chains, ∀ key ∈ chain, Text.trim key = key

/-- Chains are read with trimmed keys. -/
theorem trimmedChains_readChains {v : Value} {chains : List (List Text)} (h : readChains v = .ok chains) :
    TrimmedChains chains := by
  unfold readChains at h
  split at h
  · obtain ⟨items, -, hmap⟩ := Outcome.bind_eq_ok.mp h
    intro chain hchain key hkey
    obtain ⟨item, -, hread⟩ := Outcome.exists_of_mem_mapM hmap hchain
    split at hread
    · simp at hread
    · obtain ⟨keys, -, hkeys⟩ := Outcome.bind_eq_ok.mp hread
      obtain ⟨v, -, hv⟩ := Outcome.exists_of_mem_mapM hkeys hkey
      obtain ⟨s, -, rfl⟩ := Outcome.map_eq_ok.mp hv
      exact Text.trim_trim s
  · obtain rfl := Except.ok.inj h
    intro chain hchain
    simp at hchain

/-- Chains with trimmed keys are read as they are written. -/
theorem readChains_chainsValue {chains : List (List Text)} (h : TrimmedChains chains) :
    readChains (chainsValue chains) = .ok chains := by
  have hkeys : ∀ chain ∈ chains,
      (chain.map Datum.text).mapM (fun key => Text.trim <$> Value.expectText "hierarchy key".toList key) = .ok chain := by
    intro chain hchain
    rw [Outcome.mapM_eq_ok, List.forall₂_map_left_iff, List.forall₂_same]
    intro key hkey
    exact congrArg Except.ok (h chain hchain key hkey)
  cases chains with
  | nil => rfl
  | cons first rest =>
    refine Outcome.bind_eq_ok.mpr ⟨_, rfl, ?_⟩
    rw [Outcome.mapM_eq_ok, List.forall₂_map_left_iff, List.forall₂_same]
    exact fun chain hchain => Outcome.bind_eq_ok.mpr ⟨_, rfl, hkeys chain hchain⟩

@[simp] theorem chains_register (t : ParamTable) (r : Registration) : (t.register r).2.chains = t.chains := by
  obtain ⟨-, h⟩ | ⟨-, -, h⟩ | ⟨old, -, -, h⟩ | ⟨live, -, h⟩ | ⟨loser, -, h⟩ := t.register_cases r
  · rw [h]
  · rw [h]
    rfl
  · rw [h]
    unfold replaceLive
    split <;> rfl
  · rw [h]
    unfold recordBeside
    split <;> rfl
  · rw [h]
    rfl

theorem Reached.chains_eq {chains : List (List Text)} {t : ParamTable} (ht : Reached chains t) : t.chains = chains := by
  induction ht with
  | empty => rfl
  | register _ r ih => rw [chains_register, ih]
  | erase _ key ih => exact ih

theorem Reached.distinctKeys {chains : List (List Text)} {t : ParamTable} (ht : Reached chains t) :
    t.DistinctKeys := by
  induction ht with
  | empty => exact distinctKeys_empty chains
  | register _ r ih => exact ih.register r
  | erase _ key ih => exact Keyed.nodup_keys_erase key ih

/-! ## Calls -/

/-- A registration that is entered is carried out. -/
theorem enter_eq_ok {t : ParamTable} {r : Registration} {result : Bool × ParamTable} (h : t.enter r = .ok result) :
    result = t.register r := by
  unfold enter at h
  dsimp only at h
  split at h
  · obtain ⟨-, -, h⟩ := Outcome.bind_eq_ok.mp h
    exact (Except.ok.inj h).symm
  · exact (Except.ok.inj h).symm

theorem expectText_eq_ok {role s : Text} {v : Value} (h : Value.expectText role v = .ok s) : v = .text s := by
  unfold Value.expectText at h
  split at h
  · rw [Except.ok.inj h]
  · simp at h

/-- An insertion that is not refused has texts for its key and its value and a position that can be read. -/
theorem insert_eq_ok {t : ParamTable} {key value position : Value} {overwrite : Bool} {result : Bool × ParamTable}
    (h : t.insert key value overwrite position = .ok result) :
    ∃ k v place, ((key = .null ∧ k = []) ∨ key = .text k) ∧ value = .text v ∧ Position.ofValue position = .ok place ∧
      result = t.register { key := k, value := v, overwrite, position := place } := by
  have hrest : ∀ k, (do
      let value ← Value.expectText "value".toList value
      let position ← Position.ofValue position
      t.enter { key := k, value, overwrite, position }) = .ok result →
      ∃ v place, value = .text v ∧ Position.ofValue position = .ok place ∧
        result = t.register { key := k, value := v, overwrite, position := place } := by
    intro k hk
    obtain ⟨v, hv, hk⟩ := Outcome.bind_eq_ok.mp hk
    obtain ⟨place, hplace, hk⟩ := Outcome.bind_eq_ok.mp hk
    exact ⟨v, place, expectText_eq_ok hv, hplace, enter_eq_ok hk⟩
  unfold insert at h
  dsimp only at h
  split at h
  · obtain ⟨v, place, hv, hplace, hresult⟩ := hrest [] h
    exact ⟨[], v, place, Or.inl ⟨rfl, rfl⟩, hv, hplace, hresult⟩
  · obtain ⟨k, hkey, h⟩ := Outcome.bind_eq_ok.mp h
    obtain ⟨v, place, hv, hplace, hresult⟩ := hrest k h
    exact ⟨k, v, place, Or.inr (expectText_eq_ok hkey), hv, hplace, hresult⟩

/-- A text under a key that is not blank is registered, if the position can be read. -/
theorem insert_of_named {key : Text} (hkey : Text.trim key ≠ []) {position : Value} {place : Option Position}
    (hplace : Position.ofValue position = .ok place) (t : ParamTable) (value : Text) (overwrite : Bool) :
    t.insert (.text key) (.text value) overwrite position =
      .ok (t.register { key, value, overwrite, position := place }) := by
  have hnamed : (Text.trim key).isEmpty = false := by simpa using hkey
  simp [insert, Value.expectText, hplace, enter, hnamed, bind, Except.bind, pure, Except.pure]

theorem update_eq_ok {t : ParamTable} {key value : Value} {result : Bool × ParamTable}
    (h : t.update key value = .ok result) :
    ∃ k v, key = .text k ∧ value = .text v ∧ result = t.register { key := k, value := v, mustExist := true } := by
  obtain ⟨k, hk, h⟩ := Outcome.bind_eq_ok.mp h
  obtain ⟨v, hv, h⟩ := Outcome.bind_eq_ok.mp h
  exact ⟨k, v, expectText_eq_ok hk, expectText_eq_ok hv, enter_eq_ok h⟩

/-- A deletion erases the key it is about if that is live, and does nothing otherwise. -/
theorem delete_eq_ok {t : ParamTable} {key : Value} {resolved : Bool} {result : Bool × ParamTable}
    (h : t.delete key resolved = .ok result) :
    ∃ k, key = .text k ∧
      result = (if t.isLive (if resolved then t.resolve k else k) then
        (true, t.erase (if resolved then t.resolve k else k)) else (false, t)) := by
  obtain ⟨k, hk, h⟩ := Outcome.bind_eq_ok.mp h
  exact ⟨k, expectText_eq_ok hk, (Except.ok.inj h).symm⟩

/-- The copy of a table with trimmed chains is that table. -/
theorem copy_eq {t : ParamTable} (h : TrimmedChains t.chains) : t.copy = .ok t :=
  Outcome.bind_eq_ok.mpr ⟨t.chains, readChains_chainsValue h, rfl⟩

/-- A call registers a parameter, which is none of those that the table begins with and comes with no source, deletes
one or leaves the table. -/
theorem call_eq_ok {t u : ParamTable} {edit : Edit} {answer : Bool} (htrim : TrimmedChains t.chains)
    (h : t.call edit = .ok (answer, u)) :
    u = t ∨ (∃ r : Registration, r.initial = false ∧ r.source = .null ∧ u = (t.register r).2) ∨
      ∃ key, u = t.erase key := by
  cases edit with
  | insert key value overwrite position =>
    obtain ⟨k, v, place, -, -, -, hresult⟩ := insert_eq_ok h
    exact Or.inr (Or.inl ⟨_, rfl, rfl, congrArg Prod.snd hresult⟩)
  | update key value =>
    obtain ⟨k, v, -, -, hresult⟩ := update_eq_ok h
    exact Or.inr (Or.inl ⟨_, rfl, rfl, congrArg Prod.snd hresult⟩)
  | delete key resolved =>
    obtain ⟨k, -, hresult⟩ := delete_eq_ok h
    generalize (if resolved = true then t.resolve k else k) = erased at hresult
    split at hresult
    · exact Or.inr (Or.inr ⟨_, congrArg Prod.snd hresult⟩)
    · exact Or.inl (congrArg Prod.snd hresult)
  | copy =>
    obtain ⟨v, hcopy, hv⟩ := Outcome.map_eq_ok.mp h
    rw [copy_eq htrim] at hcopy
    exact Or.inl ((congrArg Prod.snd hv).symm.trans (Except.ok.inj hcopy).symm)

theorem Reached.after {chains : List (List Text)} {t : ParamTable} (htrim : TrimmedChains chains)
    (ht : Reached chains t) (edit : Edit) : Reached chains (t.after edit) := by
  unfold ParamTable.after
  split
  · rename_i answer u hcall
    rw [← ht.chains_eq] at htrim
    obtain rfl | ⟨r, -, -, rfl⟩ | ⟨key, rfl⟩ := call_eq_ok htrim hcall
    · exact ht
    · exact ht.register r
    · exact ht.erase key
  · exact ht

theorem Reached.run {chains : List (List Text)} {t : ParamTable} (htrim : TrimmedChains chains)
    (ht : Reached chains t) (edits : List Edit) : Reached chains (t.run edits) := by
  induction edits generalizing t with
  | nil => exact ht
  | cons edit rest ih => exact ih (ht.after htrim edit)

/-! ## Seeds -/

theorem Reached.addSeed {chains : List (List Text)} {t : ParamTable} (ht : Reached chains t) (seed : Seed) :
    Reached chains (t.addSeed seed) :=
  ht.register _

/-- A table that is made of seeds is reached from the empty one. -/
theorem exists_reached_of_ofValues {seeds hierarchies : Value} {t : ParamTable}
    (h : ofValues seeds hierarchies = .ok t) : ∃ chains, readChains hierarchies = .ok chains ∧ Reached chains t := by
  obtain ⟨chains, hchains, h⟩ := Outcome.bind_eq_ok.mp h
  obtain ⟨items, -, h⟩ := Outcome.bind_eq_ok.mp h
  refine ⟨chains, hchains, Outcome.foldlM_invariant (Reached chains) ?_ Reached.empty h⟩
  intro t v u ht hu
  obtain ⟨seed, -, hu⟩ := Outcome.bind_eq_ok.mp hu
  obtain ⟨seed, -, rfl⟩ := enterSeed_eq_ok hu
  exact ht.addSeed seed

/-- Whatever calls follow upon the making of a table, it is reached from the empty one. -/
theorem reached_run_of_ofValues {seeds hierarchies : Value} {chains : List (List Text)} {t : ParamTable}
    (hchains : readChains hierarchies = .ok chains) (h : ofValues seeds hierarchies = .ok t) (edits : List Edit) :
    Reached chains (t.run edits) := by
  obtain ⟨read, hread, ht⟩ := exists_reached_of_ofValues h
  obtain rfl : chains = read := Except.ok.inj (hchains.symm.trans hread)
  exact ht.run (trimmedChains_readChains hchains) edits

theorem reached_ofSeedValues {seeds : List SeedValue} {chains : List (List Text)} {t : ParamTable}
    (h : ofSeedValues seeds chains = .ok t) : Reached chains t := by
  refine Outcome.foldlM_invariant (Reached chains) ?_ Reached.empty h
  intro t v u ht hu
  obtain ⟨seed, -, rfl⟩ := enterSeed_eq_ok hu
  exact ht.addSeed seed

end PageMarkup.ParamTable
