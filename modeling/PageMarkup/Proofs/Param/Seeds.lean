import PageMarkup.Page.Nodes
import PageMarkup.Proofs.Param.Keys

/-!
# Seeds and hierarchies of scanned templates

The arguments that a scan has found have texts for their parts, and hierarchies of the right form can be read. So one
thing alone keeps a table from being made of them: an unnamed argument that looks for a free number beside a key that
is too long a numeral to be read.
-/
namespace PageMarkup

/-! ## Hierarchies -/

/-- Whether the value is a text. -/
def Value.IsText (v : Value) : Prop := ∃ s, v = .text s

/-- Whether the value is a list or a tuple of items that satisfy `P`. -/
def Value.IsSequenceOf (P : Value → Prop) (v : Value) : Prop :=
  ∃ items, (v = .list items ∨ v = .tuple items) ∧ ∀ item ∈ items, P item

/-- Whether the value is a sequence of chains of keys, or one that counts as none. -/
def Value.IsHierarchies (v : Value) : Prop :=
  v.truthy = false ∨ Value.IsSequenceOf (Value.IsSequenceOf Value.IsText) v

theorem Value.IsSequenceOf.exists_items {P : Value → Prop} {v : Value} (h : IsSequenceOf P v) :
    ∃ items, v.expectItems = .ok items ∧ ∀ item ∈ items, P item := by
  obtain ⟨items, rfl | rfl, hitems⟩ := h
  · exact ⟨items, rfl, hitems⟩
  · exact ⟨items, rfl, hitems⟩

/-- Chains of keys are read. -/
theorem ParamTable.exists_readChains {v : Value} (h : Value.IsHierarchies v) : ∃ chains, readChains v = .ok chains := by
  unfold readChains
  obtain hfalsy | hchains := h
  · exact ⟨[], if_neg (by simp [hfalsy])⟩
  · obtain ⟨items, hitems, hkeys⟩ := hchains.exists_items
    split
    · rw [hitems]
      refine Outcome.exists_mapM_eq_ok fun chain hchain => ?_
      obtain ⟨keys, hread, htexts⟩ := (hkeys chain hchain).exists_items
      obtain ⟨texts, htrim⟩ : ∃ texts,
          keys.mapM (fun key => Text.trim <$> Value.expectText "hierarchy key".toList key) = .ok texts := by
        refine Outcome.exists_mapM_eq_ok fun key hkey => ?_
        obtain ⟨s, rfl⟩ := htexts key hkey
        exact ⟨_, rfl⟩
      obtain ⟨_, rfl | rfl, -⟩ := hkeys chain hchain
      · exact ⟨texts, Outcome.bind_eq_ok.mpr ⟨keys, hread, htrim⟩⟩
      · exact ⟨texts, Outcome.bind_eq_ok.mpr ⟨keys, hread, htrim⟩⟩
    · exact ⟨[], rfl⟩

/-- The seed that an argument stands for. An empty key is none. -/
def Argument.seed (arg : Argument) : Seed where
  value := arg.value
  key := arg.key.filter (!·.isEmpty)
  source := .text arg.written

/-- An argument that a scan has found has texts for its parts. -/
theorem Argument.toSeed_toSeed (arg : Argument) : arg.toSeed.toSeed = .ok arg.seed := by
  obtain ⟨written, key, value⟩ := arg
  cases key with
  | none => rfl
  | some key =>
    cases key with
    | nil => rfl
    | cons c rest => rfl

theorem Argument.getD_key_seed (arg : Argument) : arg.seed.key.getD [] = arg.key.getD [] := by
  obtain ⟨written, key, value⟩ := arg
  cases key with
  | none => rfl
  | some key =>
    cases key with
    | nil => rfl
    | cons c rest => rfl

/-- The key is that of an argument, or a number that an unnamed one may be given. -/
def IsKeyOf (args : List Argument) (key : Text) : Prop :=
  (∃ arg ∈ args, arg.key.map Text.trim = some key) ∨ ∃ n ≤ args.length, key = Text.ofNat n

/-- The key is that of a seed, or a number that an unnamed one may be given. -/
def IsSeedKey (seeds : List SeedValue) (key : Text) : Prop :=
  (∃ v ∈ seeds, ∃ s, v.key = .text s ∧ key = Text.trim s) ∨ ∃ n ≤ seeds.length, key = Text.ofNat n

/-- The keys of seeds that arguments stand for are those of the arguments. -/
theorem IsSeedKey.isKeyOf {args : List Argument} {key : Text} (h : IsSeedKey (args.map Argument.toSeed) key) :
    IsKeyOf args key := by
  obtain ⟨v, hv, s, hs, rfl⟩ | ⟨n, hn, rfl⟩ := h
  · obtain ⟨⟨written, own, value⟩, harg, rfl⟩ := List.mem_map.mp hv
    cases own with
    | none => simp [Argument.toSeed, Value.ofText?] at hs
    | some own =>
      obtain rfl : own = s := Datum.text.inj hs
      exact Or.inl ⟨_, harg, rfl⟩
  · exact Or.inr ⟨n, by simpa using hn, rfl⟩

/-- A seed has the key that its value is. -/
theorem SeedValue.key_toSeed {v : SeedValue} {seed : Seed} (h : v.toSeed = .ok seed) :
    seed.key = none ∨ ∃ s, v.key = .text s ∧ seed.key = some s := by
  unfold toSeed at h
  split at h
  · obtain ⟨key, hkey, h⟩ := Outcome.bind_eq_ok.mp h
    obtain ⟨value, -, h⟩ := Outcome.bind_eq_ok.mp h
    obtain rfl := Except.ok.inj h
    obtain ⟨s, hs, rfl⟩ := Outcome.map_eq_ok.mp hkey
    refine Or.inr ⟨s, ?_, rfl⟩
    unfold Value.expectText at hs
    split at hs
    · rename_i hv
      rw [hv, Except.ok.inj hs]
    · simp at hs
  · obtain ⟨key, hkey, h⟩ := Outcome.bind_eq_ok.mp h
    obtain ⟨value, -, h⟩ := Outcome.bind_eq_ok.mp h
    obtain rfl := Except.ok.inj h
    exact Or.inl (Except.ok.inj hkey).symm

namespace ParamTable

/-- The live keys of the table are those of seeds or numbers of unnamed ones, and `n` more seeds may come. -/
def MadeOf (t : ParamTable) (seeds : List SeedValue) (n : Nat) : Prop :=
  (∀ key ∈ Keyed.keys t.live, IsSeedKey seeds key) ∧ t.live.length + n ≤ seeds.length

section

variable {t u : ParamTable} {seeds : List SeedValue} {n : Nat} {v : SeedValue} {fault : Fault}

theorem MadeOf.isSeedKey_paramOf (ht : t.MadeOf seeds (n + 1)) (hmem : v ∈ seeds) {seed : Seed}
    (hseed : v.toSeed = .ok seed) {r : Registration} (hkey : r.key = seed.key.getD []) :
    IsSeedKey seeds (t.paramOf r).key := by
  have hcount := ht.2
  have hfree := t.leastFree_le
  unfold paramOf
  dsimp only
  split
  · exact Or.inr ⟨t.leastFree, by omega, rfl⟩
  · rename_i hnamed
    obtain hnone | ⟨s, hs, hsome⟩ := SeedValue.key_toSeed hseed
    · simp [hkey, hnone, Text.trim, Text.trimStart, Text.trimEnd] at hnamed
    · exact Or.inl ⟨v, hmem, s, hs, by simp [hkey, hsome]⟩

/-- One more seed uses up one place, and its key or its number becomes live at most. -/
theorem MadeOf.enterSeed (ht : t.MadeOf seeds (n + 1)) (hmem : v ∈ seeds) (h : t.enterSeed v = .ok u) :
    u.MadeOf seeds n := by
  obtain ⟨seed, hseed, rfl⟩ := enterSeed_eq_ok h
  refine ⟨?_, ?_⟩
  · intro key hkey
    obtain rfl | hlive := mem_keys_register hkey
    · exact ht.isSeedKey_paramOf hmem hseed rfl
    · exact ht.1 key hlive
  · have hcount := ht.2
    have hlength := t.length_live_register_le
      { key := seed.key.getD [], value := seed.value, initial := true, source := seed.source }
    unfold addSeed
    omega

/-- A free key is missed beside a live key that is too long a numeral. -/
theorem expectFreeKey_eq_error (h : t.expectFreeKey = .error fault) :
    ∃ key ∈ Keyed.keys t.live, isOverlongKey key = true ∧ fault = .noNumeral key := by
  unfold expectFreeKey at h
  split at h
  · rename_i entry hentry
    have hoverlong := List.find?_some hentry
    exact ⟨entry.1, List.mem_map_of_mem (List.mem_of_find?_eq_some hentry), hoverlong, (Except.error.inj h).symm⟩
  · simp at h

theorem MadeOf.enterSeed_eq_error (ht : t.MadeOf seeds n) (h : t.enterSeed v = .error fault) :
    v.toSeed = .error fault ∨ ∃ key, IsSeedKey seeds key ∧ isOverlongKey key = true ∧ fault = .noNumeral key := by
  unfold ParamTable.enterSeed at h
  obtain hnone | ⟨_, -, h⟩ := Outcome.bind_eq_error.mp h
  · exact Or.inl hnone
  · refine Or.inr ?_
    dsimp only at h
    split at h
    · obtain hfree | ⟨_, -, hrest⟩ := Outcome.bind_eq_error.mp h
      · obtain ⟨key, hkey, hoverlong⟩ := expectFreeKey_eq_error (Outcome.map_eq_error.mp hfree)
        exact ⟨key, ht.1 key hkey, hoverlong⟩
      · simp [pure, Except.pure] at hrest
    · simp [pure, Except.pure] at h

/-- Only a seed that is of no use, or a key that is too long a numeral, keeps a table from being made. -/
theorem ofSeedValues_eq_error_cases {chains : List (List Text)} (h : ofSeedValues seeds chains = .error fault) :
    (∃ v ∈ seeds, v.toSeed = .error fault) ∨
      ∃ key, IsSeedKey seeds key ∧ isOverlongKey key = true ∧ fault = .noNumeral key := by
  -- The run over what is left of the seeds begins with a table that is made of those before.
  have hrun : ∀ (rest : List SeedValue) (t : ParamTable), rest ⊆ seeds → t.MadeOf seeds rest.length →
      rest.foldlM ParamTable.enterSeed t = .error fault →
      (∃ v ∈ seeds, v.toSeed = .error fault) ∨
        ∃ key, IsSeedKey seeds key ∧ isOverlongKey key = true ∧ fault = .noNumeral key := by
    intro rest
    induction rest with
    | nil =>
      intro t _ _ hfault
      simp [pure, Except.pure] at hfault
    | cons v rest ih =>
      intro t hsub ht hfault
      obtain ⟨hv, hrest⟩ := List.cons_subset.mp hsub
      rw [List.foldlM_cons] at hfault
      obtain hfault | ⟨next, hnext, hfault⟩ := Outcome.bind_eq_error.mp hfault
      · exact (ht.enterSeed_eq_error hfault).imp_left fun hseed => ⟨v, hv, hseed⟩
      · exact ih next hrest (ht.enterSeed hv hnext) hfault
  refine hrun seeds (empty chains) (List.Subset.refl _) ⟨?_, ?_⟩ h
  · simp [empty, Keyed.keys]
  · simp [empty]

/-- Only a key that is too long a numeral keeps a table from being made of arguments. -/
theorem ofSeedValues_eq_error {args : List Argument} {chains : List (List Text)}
    (h : ofSeedValues (args.map Argument.toSeed) chains = .error fault) :
    ∃ key, IsKeyOf args key ∧ isOverlongKey key = true ∧ fault = .noNumeral key := by
  obtain ⟨v, hv, hseed⟩ | ⟨key, hkey, hoverlong⟩ := ofSeedValues_eq_error_cases h
  · obtain ⟨arg, -, rfl⟩ := List.mem_map.mp hv
    simp [arg.toSeed_toSeed] at hseed
  · exact ⟨key, hkey.isKeyOf, hoverlong⟩

end

end ParamTable

end PageMarkup
