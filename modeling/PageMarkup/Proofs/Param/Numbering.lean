import PageMarkup.Proofs.Param.Summary

/-!
# Numbers of unnamed seeds

An unnamed seed is registered under the least number that no live key denotes. If no named seed has a number for its
key, that is its place among the unnamed seeds if and only if the numbers of all unnamed seeds before it are live
(`ParamTable.leastFree_eq_iff`). A number stays live unless one of the chains gives another registered key priority over
it (`ParamTable.isLive_of_keyedBy`), and where the chains have no common key there is no other way for it to stay live
(`ParamTable.not_displaces_of_isLive`). What is registered is held from then on, as a live parameter or on record, as
long as the chains are mutual (`ParamTable.Retains.ofSeeds_append`). `ParamTable.numbersKept_iff` has all this together:
a chain with a number in it can make a later unnamed seed take that number again.
-/
namespace PageMarkup

/-- Whether the seed has no key of its own. -/
def Seed.isUnnamed (seed : Seed) : Bool := (Text.trim (seed.key.getD [])).isEmpty

/-- Whether no named seed has a number for its key. -/
def NoNumericKeys (seeds : List Seed) : Prop :=
  ∀ seed ∈ seeds, isNumericKey (Text.trim (seed.key.getD [])) = false

instance (seeds : List Seed) : Decidable (NoNumericKeys seeds) := inferInstanceAs (Decidable (∀ seed ∈ seeds, _))

namespace ParamTable

/-! ## Keys of seeds -/

/-- Whether every seed has a property that depends on the seeds before it. -/
def ForEachSeed (P : List Seed → Seed → Prop) (seeds : List Seed) : Prop :=
  ∀ before seed behind, seeds = before ++ seed :: behind → P before seed

/-- Whether one of the seeds has the key, if keys depend on the seeds before. -/
def KeyedBy (keyOf : List Seed → Seed → Text) (seeds : List Seed) (key : Text) : Prop :=
  ∃ before seed behind, seeds = before ++ seed :: behind ∧ keyOf before seed = key

theorem append_singleton_eq_iff {α : Type} {xs before behind : List α} {x y : α} :
    xs ++ [x] = before ++ y :: behind ↔
      (before = xs ∧ y = x ∧ behind = []) ∨ ∃ rest, behind = rest ++ [x] ∧ xs = before ++ y :: rest := by
  constructor
  · intro h
    obtain rfl | ⟨rest, last, rfl⟩ := List.eq_nil_or_concat behind
    · obtain ⟨hbefore, hlast⟩ := List.append_inj' h rfl
      exact Or.inl ⟨hbefore.symm, (List.cons.inj hlast).1.symm, rfl⟩
    · rw [List.concat_eq_append, ← List.cons_append, ← List.append_assoc] at h
      obtain ⟨hxs, hlast⟩ := List.append_inj' h rfl
      obtain rfl := (List.cons.inj hlast).1
      exact Or.inr ⟨rest, List.concat_eq_append, hxs⟩
  · rintro (⟨rfl, rfl, rfl⟩ | ⟨rest, rfl, rfl⟩)
    · rfl
    · simp

theorem forEachSeed_append_singleton {P : List Seed → Seed → Prop} {seeds : List Seed} {seed : Seed} :
    ForEachSeed P (seeds ++ [seed]) ↔ ForEachSeed P seeds ∧ P seeds seed := by
  constructor
  · intro h
    refine ⟨fun before other behind hsplit => h before other (behind ++ [seed]) ?_, h seeds seed [] rfl⟩
    exact append_singleton_eq_iff.mpr (Or.inr ⟨behind, rfl, hsplit⟩)
  · rintro ⟨hbefore, hlast⟩ before other behind hsplit
    obtain ⟨rfl, rfl, -⟩ | ⟨rest, -, hrest⟩ := append_singleton_eq_iff.mp hsplit
    · exact hlast
    · exact hbefore before other rest hrest

theorem ForEachSeed.of_append {P : List Seed → Seed → Prop} {seeds behind : List Seed}
    (h : ForEachSeed P (seeds ++ behind)) : ForEachSeed P seeds := by
  rintro before seed rest rfl
  exact h before seed (rest ++ behind) (by simp)

theorem keyedBy_append_singleton {keyOf : List Seed → Seed → Text} {seeds : List Seed} {seed : Seed} {key : Text} :
    KeyedBy keyOf (seeds ++ [seed]) key ↔ KeyedBy keyOf seeds key ∨ keyOf seeds seed = key := by
  constructor
  · rintro ⟨before, other, behind, hsplit, hkey⟩
    obtain ⟨rfl, rfl, -⟩ | ⟨rest, -, hrest⟩ := append_singleton_eq_iff.mp hsplit
    · exact Or.inr hkey
    · exact Or.inl ⟨before, other, rest, hrest, hkey⟩
  · rintro (⟨before, other, behind, hsplit, hkey⟩ | hkey)
    · exact ⟨before, other, behind ++ [seed], append_singleton_eq_iff.mpr (Or.inr ⟨behind, rfl, hsplit⟩), hkey⟩
    · exact ⟨seeds, seed, [], rfl, hkey⟩

/-- How many of the seeds are unnamed. -/
def unnamedCount (seeds : List Seed) : Nat := seeds.countP Seed.isUnnamed

/-- The key that a seed should have behind others: its own, or the numeral of its place among the unnamed ones. -/
def numberedKey (before : List Seed) (seed : Seed) : Text :=
  if seed.isUnnamed then Text.ofNat (unnamedCount before + 1) else Text.trim (seed.key.getD [])

/-- The key that a seed is registered under behind others. -/
def registeredKey (chains : List (List Text)) (before : List Seed) (seed : Seed) : Text :=
  ((ofSeeds before chains).paramOf seed.toRegistration).key

/-- Whether every unnamed seed is registered under the numeral of its place among the unnamed ones. -/
def NumbersKept (chains : List (List Text)) (seeds : List Seed) : Prop :=
  ForEachSeed (fun before seed => registeredKey chains before seed = numberedKey before seed) seeds

theorem NumbersKept.keyedBy_iff {chains : List (List Text)} {seeds : List Seed} (h : NumbersKept chains seeds)
    {key : Text} : KeyedBy (registeredKey chains) seeds key ↔ KeyedBy numberedKey seeds key := by
  constructor
  · rintro ⟨before, seed, behind, hsplit, hkey⟩
    exact ⟨before, seed, behind, hsplit, (h before seed behind hsplit).symm.trans hkey⟩
  · rintro ⟨before, seed, behind, hsplit, hkey⟩
    exact ⟨before, seed, behind, hsplit, (h before seed behind hsplit).trans hkey⟩

section

variable {chains : List (List Text)} {seeds before : List Seed} {seed : Seed} {key : Text}

theorem unnamedCount_append_singleton (seeds : List Seed) (seed : Seed) :
    unnamedCount (seeds ++ [seed]) = unnamedCount seeds + if seed.isUnnamed then 1 else 0 := by
  rw [unnamedCount, List.countP_append, List.countP_singleton]
  rfl

theorem paramOf_of_isUnnamed (t : ParamTable) (h : seed.isUnnamed = true) :
    t.paramOf seed.toRegistration = { key := t.freeKey, value := seed.value, unnamed := true, source := seed.source } :=
  paramOf_of_blank (List.isEmpty_iff.mp h)

theorem registeredKey_of_isUnnamed (h : seed.isUnnamed = true) :
    registeredKey chains before seed = Text.ofNat (ofSeeds before chains).leastFree := by
  rw [registeredKey, paramOf_of_isUnnamed _ h]
  rfl

theorem registeredKey_of_named (h : seed.isUnnamed = false) :
    registeredKey chains before seed = Text.trim (seed.key.getD []) := by
  have hne : Text.trim seed.toRegistration.key ≠ [] := fun hnil => by simp [Seed.isUnnamed] at h; exact h hnil
  rw [registeredKey, paramOf_of_named hne]
  rfl

/-- The numerals up to the number of unnamed seeds are the keys that these should have. -/
theorem keyedBy_numberedKey {n : Nat} (hpos : 0 < n) (hn : n ≤ unnamedCount seeds) :
    KeyedBy numberedKey seeds (Text.ofNat n) := by
  induction seeds using List.reverseRecOn with
  | nil =>
    have hzero : unnamedCount [] = 0 := rfl
    omega
  | append_singleton seeds seed ih =>
    rw [keyedBy_append_singleton]
    rw [unnamedCount_append_singleton] at hn
    by_cases hle : n ≤ unnamedCount seeds
    · exact Or.inl (ih hle)
    · cases hunnamed : seed.isUnnamed with
      | false =>
        rw [hunnamed] at hn
        simp at hn
        omega
      | true =>
        rw [hunnamed] at hn
        have heq : n = unnamedCount seeds + 1 := by
          simp at hn
          omega
        exact Or.inr (by rw [numberedKey, if_pos hunnamed, heq])

/-- A live key is one that a seed was registered under. -/
theorem keyedBy_of_isLive (h : (ofSeeds seeds chains).isLive key = true) : KeyedBy (registeredKey chains) seeds key := by
  induction seeds using List.reverseRecOn with
  | nil => simp [ofSeeds] at h
  | append_singleton seeds seed ih =>
    rw [ofSeeds_append_singleton, addSeed_eq, isLive_iff_mem_keys] at h
    rw [keyedBy_append_singleton]
    obtain rfl | hbefore := mem_keys_register h
    · exact Or.inr rfl
    · exact Or.inl (ih (isLive_iff_mem_keys.mpr hbefore))

/-! ## Free numbers -/

theorem leastFree_le_of_numbers {t : ParamTable} {m : Nat}
    (h : ∀ key n, t.isLive key = true → keyNumber? key = some n → n ≤ m) : t.leastFree ≤ m + 1 := by
  refine t.isLeast_leastFree.2 ⟨Nat.succ_pos m, fun key hkey hnumber => ?_⟩
  have hle := h key (m + 1) (isLive_iff_mem_keys.mpr hkey) hnumber
  omega

/-- A live key that denotes a number is its numeral, and the number is at most that of the unnamed seeds. -/
theorem numeral_of_isLive (hnamed : NoNumericKeys seeds) {n : Nat} (hlive : (ofSeeds seeds chains).isLive key = true)
    (hnumber : keyNumber? key = some n) : key = Text.ofNat n ∧ n ≤ unnamedCount seeds := by
  induction seeds using List.reverseRecOn generalizing key n with
  | nil => simp [ofSeeds] at hlive
  | append_singleton seeds seed ih =>
    have hbefore : NoNumericKeys seeds := fun other hother => hnamed other (List.mem_append_left _ hother)
    rw [unnamedCount_append_singleton]
    rw [ofSeeds_append_singleton, addSeed_eq, isLive_iff_mem_keys] at hlive
    obtain rfl | hold := mem_keys_register hlive
    · change keyNumber? (registeredKey chains seeds seed) = some n at hnumber
      change registeredKey chains seeds seed = Text.ofNat n ∧ _
      cases hunnamed : seed.isUnnamed with
      | false =>
        have hnone := hnamed seed (by simp)
        rw [registeredKey_of_named hunnamed] at hnumber
        simp [isNumericKey, hnumber] at hnone
      | true =>
        rw [registeredKey_of_isUnnamed hunnamed, keyNumber?_ofNat (leastFree_pos _)] at hnumber
        obtain rfl := Option.some.inj hnumber
        refine ⟨registeredKey_of_isUnnamed hunnamed, ?_⟩
        exact leastFree_le_of_numbers fun other m hother hm => (ih hbefore hother hm).2
    · obtain ⟨hnumeral, hle⟩ := ih hbefore (isLive_iff_mem_keys.mpr hold) hnumber
      exact ⟨hnumeral, by omega⟩

/-- The number for an unnamed seed is its place among the unnamed ones if and only if all numbers before it are live. -/
theorem leastFree_eq_iff (hnamed : NoNumericKeys before) :
    (ofSeeds before chains).leastFree = unnamedCount before + 1 ↔
      ∀ n, 0 < n → n ≤ unnamedCount before → (ofSeeds before chains).isLive (Text.ofNat n) = true := by
  have hleast := (ofSeeds before chains).isLeast_leastFree
  constructor
  · intro heq n hpos hn
    by_contra hdead
    -- A number that is not live would have been taken.
    have hfree : n ∈ FreeNumbers (· ∈ Keyed.keys (ofSeeds before chains).live) := by
      refine ⟨hpos, fun key hkey hnumber => hdead ?_⟩
      have hlive := isLive_iff_mem_keys.mpr hkey
      rwa [← (numeral_of_isLive hnamed hlive hnumber).1]
    have hle := hleast.2 hfree
    omega
  · intro hall
    have hle : (ofSeeds before chains).leastFree ≤ unnamedCount before + 1 :=
      leastFree_le_of_numbers fun key n hkey hnumber => (numeral_of_isLive hnamed hkey hnumber).2
    by_contra hne
    have hpos := leastFree_pos (ofSeeds before chains)
    have hlive := isLive_iff_mem_keys.mp (hall _ hpos (by omega))
    exact hleast.1.2 _ hlive (keyNumber?_ofNat hpos)

theorem registeredKey_eq_iff (hnamed : NoNumericKeys before) (hunnamed : seed.isUnnamed = true) :
    registeredKey chains before seed = numberedKey before seed ↔
      ∀ n, 0 < n → n ≤ unnamedCount before → (ofSeeds before chains).isLive (Text.ofNat n) = true := by
  rw [← leastFree_eq_iff hnamed, registeredKey_of_isUnnamed hunnamed, numberedKey, if_pos hunnamed]
  constructor
  · intro h
    simpa using congrArg Text.decimal h
  · intro h
    rw [h]

/-! ## Numbers that stay live -/

/-- Whether the key, once it is registered, keeps the other from being live: it has priority over the other, or the chain
that decides on the other gives it priority. -/
def Displaces (chains : List (List Text)) (key low : Text) : Prop :=
  Outranks chains key low ∨
    ∃ chain, decidingChain? chains low = some chain ∧ key ∈ chain ∧ chain.idxOf low < chain.idxOf key

theorem Displaces.outranks {low : Text} (hdisjoint : chains.Pairwise List.Disjoint) (h : Displaces chains key low) :
    Outranks chains key low := by
  obtain h | ⟨chain, hchain, hkey, hlt⟩ := h
  · exact h
  · obtain ⟨hmem, hlow⟩ := mem_of_decidingChain? hchain
    exact ⟨chain, (decidingChain?_eq_some_iff hdisjoint).mpr ⟨hmem, hkey⟩, hlow, hlt⟩

/-- A key that a seed was registered under is live if no such key displaces it. -/
theorem isLive_of_keyedBy (hkey : KeyedBy (registeredKey chains) seeds key)
    (hnone : ∀ other, KeyedBy (registeredKey chains) seeds other → ¬ Displaces chains other key) :
    (ofSeeds seeds chains).isLive key = true := by
  induction seeds using List.reverseRecOn with
  | nil =>
    obtain ⟨before, seed, behind, hsplit, -⟩ := hkey
    simp at hsplit
  | append_singleton seeds seed ih =>
    have hchains := (reached_ofSeeds seeds chains).chains_eq
    have hbefore : KeyedBy (registeredKey chains) seeds key → (ofSeeds seeds chains).isLive key = true := fun hkey =>
      ih hkey fun other hother => hnone other (keyedBy_append_singleton.mpr (Or.inl hother))
    have hown : ¬ Displaces chains (registeredKey chains seeds seed) key :=
      hnone _ (keyedBy_append_singleton.mpr (Or.inr rfl))
    rw [ofSeeds_append_singleton, addSeed_eq]
    obtain ⟨hrefuses, -⟩ | ⟨-, -, h⟩ | ⟨old, -, -, h⟩ | ⟨winner, hover, h⟩ | ⟨loser, hover, h⟩ :=
      (ofSeeds seeds chains).register_cases seed.toRegistration
    · simp [Refuses, Seed.toRegistration] at hrefuses
    · rw [h, isLive_addNew]
      exact (keyedBy_append_singleton.mp hkey).elim (fun hold => Or.inr (hbefore hold)) fun heq => Or.inl heq.symm
    · rw [h, isLive_replaceLive]
      exact (keyedBy_append_singleton.mp hkey).elim (fun hold => Or.inr (hbefore hold)) fun heq => Or.inl heq.symm
    · rw [h, isLive_recordBeside]
      obtain hold | rfl := keyedBy_append_singleton.mp hkey
      · exact hbefore hold
      · -- The live key that is in the way would displace the new one.
        obtain ⟨hlive, -, chain, hchain, hmem, hlt⟩ := override?_eq_overridden hover
        rw [hchains] at hchain
        refine absurd (Or.inr ⟨chain, hchain, hmem, hlt⟩) (hnone winner ?_)
        exact keyedBy_append_singleton.mpr (Or.inl (keyedBy_of_isLive hlive))
    · rw [h, isLive_evict]
      obtain hold | rfl := keyedBy_append_singleton.mp hkey
      · refine Or.inr ⟨?_, hbefore hold⟩
        rintro rfl
        have houtranks := (override?_eq_overrides hover).2.2
        rw [hchains] at houtranks
        exact hown (Or.inl houtranks)
      · exact Or.inl rfl

/-- The keys of entries are the keys that the seeds were registered under. -/
theorem Entered.exists_key_iff (hdisjoint : chains.Pairwise List.Disjoint) {entries : List Param}
    (h : Entered chains seeds entries) : (∃ e ∈ entries, e.key = key) ↔ KeyedBy (registeredKey chains) seeds key := by
  induction h with
  | nil =>
    constructor
    · rintro ⟨e, he, -⟩
      simp at he
    · rintro ⟨before, seed, behind, hsplit, -⟩
      simp at hsplit
  | @snoc seeds entries seed e hbefore he ih =>
    rw [← (reached_ofSeeds seeds chains).chains_eq] at he
    have hown : e.key = registeredKey chains seeds seed := by
      rw [((hbefore.summarizes hdisjoint).enteredAs_iff).mp he, registeredKey]
    rw [keyedBy_append_singleton, ← ih, ← hown]
    simp [or_and_right, exists_or]

/-- Under chains without a common key a live key is displaced by no key that a seed was registered under. -/
theorem not_displaces_of_isLive (hdisjoint : chains.Pairwise List.Disjoint)
    (hlive : (ofSeeds seeds chains).isLive key = true) {other : Text}
    (hother : KeyedBy (registeredKey chains) seeds other) : ¬ Displaces chains other key := by
  intro hdisplaces
  obtain ⟨entries, hentered⟩ := exists_entered hdisjoint seeds
  obtain ⟨e, he, rfl⟩ := (hentered.exists_key_iff hdisjoint).mpr hother
  have hleads := ((hentered.summarizes hdisjoint).live_iff key).mp hlive
  rw [(reached_ofSeeds seeds chains).chains_eq] at hleads
  exact hleads.2 e he (hdisplaces.outranks hdisjoint)

/-- Whether at each unnamed seed no seed before it should have a key that displaces the number of an unnamed one before
it. -/
def Undisplaced (chains : List (List Text)) (seeds : List Seed) : Prop :=
  ForEachSeed (fun before seed => seed.isUnnamed = true → ∀ n, 0 < n → n ≤ unnamedCount before →
    ∀ key, KeyedBy numberedKey before key → ¬ Displaces chains key (Text.ofNat n)) seeds

theorem Undisplaced.numbersKept (h : Undisplaced chains seeds) (hnamed : NoNumericKeys seeds) :
    NumbersKept chains seeds := by
  induction seeds using List.reverseRecOn with
  | nil =>
    intro before seed behind hsplit
    simp at hsplit
  | append_singleton seeds seed ih =>
    have hbefore : NoNumericKeys seeds := fun other hother => hnamed other (List.mem_append_left _ hother)
    have hkept : NumbersKept chains seeds := ih h.of_append hbefore
    refine forEachSeed_append_singleton.mpr ⟨hkept, ?_⟩
    cases hunnamed : seed.isUnnamed with
    | false => rw [registeredKey_of_named hunnamed, numberedKey, if_neg (by simp [hunnamed])]
    | true =>
      rw [registeredKey_eq_iff hbefore hunnamed]
      intro n hpos hn
      have hnumber := hkept.keyedBy_iff.mpr (keyedBy_numberedKey hpos hn)
      refine isLive_of_keyedBy hnumber fun other hother => ?_
      exact h seeds seed [] rfl hunnamed n hpos hn other (hkept.keyedBy_iff.mp hother)

/-- The numbers are kept if and only if at each unnamed seed those of all unnamed ones before it are live. -/
theorem numbersKept_iff_isLive (hnamed : NoNumericKeys seeds) :
    NumbersKept chains seeds ↔
      ForEachSeed (fun before seed => seed.isUnnamed = true → ∀ n, 0 < n → n ≤ unnamedCount before →
        (ofSeeds before chains).isLive (Text.ofNat n) = true) seeds := by
  have hnamedBefore : ∀ before seed behind, seeds = before ++ seed :: behind → NoNumericKeys before := by
    rintro before seed behind rfl other hother
    exact hnamed other (List.mem_append_left _ hother)
  constructor
  · intro h before seed behind hsplit hunnamed
    exact (registeredKey_eq_iff (hnamedBefore before seed behind hsplit) hunnamed).mp (h before seed behind hsplit)
  · intro h before seed behind hsplit
    cases hunnamed : seed.isUnnamed with
    | false => rw [registeredKey_of_named hunnamed, numberedKey, if_neg (by simp [hunnamed])]
    | true =>
      exact (registeredKey_eq_iff (hnamedBefore before seed behind hsplit) hunnamed).mpr
        (h before seed behind hsplit hunnamed)

theorem NumbersKept.undisplaced (h : NumbersKept chains seeds) (hnamed : NoNumericKeys seeds)
    (hdisjoint : chains.Pairwise List.Disjoint) : Undisplaced chains seeds := by
  intro before seed behind hsplit hunnamed n hpos hn key hkey
  have hlive := (numbersKept_iff_isLive hnamed).mp h before seed behind hsplit hunnamed n hpos hn
  have hbefore : NumbersKept chains before := by
    subst hsplit
    exact ForEachSeed.of_append h
  exact not_displaces_of_isLive hdisjoint hlive (hbefore.keyedBy_iff.mpr hkey)

/-! ## What is held -/

/-- Whether a value is live under its key or on record beside a live parameter. -/
def Retains (t : ParamTable) (d : Superseded) : Prop :=
  ∃ key p, Keyed.get? key t.live = some p ∧ (p.asSuperseded = d ∨ d ∈ p.superseded)

/-- What is registered for a seed is held. -/
theorem retains_addSeed_self (t : ParamTable) (seed : Seed) :
    (t.addSeed seed).Retains (t.paramOf seed.toRegistration).asSuperseded := by
  rw [addSeed_eq]
  obtain ⟨hrefuses, -⟩ | ⟨-, -, h⟩ | ⟨old, -, -, h⟩ | ⟨winner, hover, h⟩ | ⟨loser, -, h⟩ :=
    t.register_cases seed.toRegistration
  · simp [Refuses, Seed.toRegistration] at hrefuses
  · rw [h]
    exact ⟨_, _, Keyed.get?_put_self _ _ _, Or.inl rfl⟩
  · rw [h]
    exact ⟨_, _, Keyed.get?_put_self _ _ _, Or.inl rfl⟩
  · rw [h]
    obtain ⟨old, hold⟩ := isLive_iff.mp (override?_eq_overridden hover).1
    simp only [recordBeside, hold]
    exact ⟨_, _, Keyed.get?_put_self _ _ _, Or.inr (by simp [addSuperseded, Seed.toRegistration])⟩
  · rw [h]
    exact ⟨_, _, Keyed.get?_put_self _ _ _, Or.inl rfl⟩

/-- Under mutual chains a seed more leaves what is held. -/
theorem Retains.addSeed {t : ParamTable} {d : Superseded} (ht : Reached chains t) (hmutual : MutualChains chains)
    (hd : t.Retains d) (seed : Seed) : (t.addSeed seed).Retains d := by
  obtain ⟨key, p, hget, hp⟩ := hd
  -- What has given way is on record as a whole.
  have hmoved : d ∈ p.superseded ++ [p.asSuperseded] := by
    obtain rfl | hmem := hp
    · simp
    · exact List.mem_append_left _ hmem
  rw [addSeed_eq]
  obtain ⟨hrefuses, -⟩ | ⟨-, hnew, h⟩ | ⟨old, -, hold, h⟩ | ⟨winner, hover, h⟩ | ⟨loser, hover, h⟩ :=
    t.register_cases seed.toRegistration
  · simp [Refuses, Seed.toRegistration] at hrefuses
  · rw [h]
    have hne : (t.paramOf seed.toRegistration).key ≠ key := by
      rintro rfl
      simp [hnew] at hget
    exact ⟨key, p, (Keyed.get?_put_of_ne hne _ _).trans hget, hp⟩
  · rw [h]
    by_cases hkey : (t.paramOf seed.toRegistration).key = key
    · obtain rfl : old = p := by
        rw [hkey, hget] at hold
        exact (Option.some.inj hold).symm
      exact ⟨_, _, Keyed.get?_put_self _ _ _, Or.inr hmoved⟩
    · exact ⟨key, p, (Keyed.get?_put_of_ne hkey _ _).trans hget, hp⟩
  · rw [h]
    obtain ⟨old, hold⟩ := isLive_iff.mp (override?_eq_overridden hover).1
    simp only [recordBeside, hold]
    by_cases hkey : winner = key
    · obtain rfl : old = p := by
        rw [hkey, hget] at hold
        exact (Option.some.inj hold).symm
      refine ⟨_, _, Keyed.get?_put_self _ _ _, hp.imp id fun hmem => ?_⟩
      simp [addSuperseded, Seed.toRegistration, hmem]
    · exact ⟨key, p, (Keyed.get?_put_of_ne hkey _ _).trans hget, hp⟩
  · rw [h]
    obtain ⟨hlive, -, houtranks⟩ := override?_eq_overrides hover
    by_cases hkey : loser = key
    · subst hkey
      simp only [evict, hget]
      exact ⟨_, _, Keyed.get?_put_self _ _ _, Or.inr (by simpa [addSuperseded, Seed.toRegistration] using hmoved)⟩
    · have hne : (t.paramOf seed.toRegistration).key ≠ key := by
        rintro rfl
        exact (ht.ordered_and_noRivals hmutual).2 _ _ (isLive_iff.mpr ⟨p, hget⟩) hlive houtranks
      refine ⟨key, p, (Keyed.get?_put_of_ne hne _ _).trans ?_, hp⟩
      rw [Keyed.get?_erase, if_neg hkey, hget]

theorem Retains.ofSeeds_append {d : Superseded} (hmutual : MutualChains chains)
    (hd : (ofSeeds seeds chains).Retains d) (behind : List Seed) : (ofSeeds (seeds ++ behind) chains).Retains d := by
  induction behind using List.reverseRecOn with
  | nil => rwa [List.append_nil]
  | append_singleton behind seed ih =>
    rw [← List.append_assoc, ofSeeds_append_singleton]
    exact ih.addSeed (reached_ofSeeds _ chains) hmutual seed

/-! ## The exact condition -/

theorem unnamedCount_le_of_append (seeds behind : List Seed) :
    unnamedCount seeds ≤ unnamedCount (seeds ++ behind) := by
  rw [unnamedCount, unnamedCount, List.countP_append]
  exact Nat.le_add_right _ _

/-- Seeds without numbers for keys are made into a table, unless there are so many unnamed ones that a number is not
read. -/
theorem ofValues_of_noNumericKeys {values hierarchies : Value} (hseeds : readSeeds values = .ok seeds)
    (hchains : readChains hierarchies = .ok chains) (hnamed : NoNumericKeys seeds)
    (hread : ∀ n, n ≤ unnamedCount seeds → isOverlongKey (Text.ofNat n) = false) :
    ofValues values hierarchies = .ok (ofSeeds seeds chains) := by
  refine (ofValues_eq_ok_iff hseeds hchains).mpr ⟨?_, rfl⟩
  rintro before seed behind rfl - key hlive
  have hbefore : NoNumericKeys before := fun other hother => hnamed other (List.mem_append_left _ hother)
  cases hnumber : keyNumber? key with
  | none => simp [isOverlongKey, isNumericKey, hnumber]
  | some n =>
    obtain ⟨rfl, hn⟩ := numeral_of_isLive hbefore hlive hnumber
    exact hread n (hn.trans (unnamedCount_le_of_append before _))

/-- If no named seed has a number for its key, every unnamed seed is registered under the numeral of its place among the
unnamed ones if and only if at each of them the numbers of all before it are live. No other condition is needed if no
key of the seeds before displaces one of these numbers; and if the chains have no common key, nothing less will do. What
is registered for an unnamed seed is held from then on as long as the chains are mutual, be it live or on record. -/
theorem numbersKept_iff {values hierarchies : Value} (hseeds : readSeeds values = .ok seeds)
    (hchains : readChains hierarchies = .ok chains) (hnamed : NoNumericKeys seeds) :
    ((∀ n, n ≤ unnamedCount seeds → isOverlongKey (Text.ofNat n) = false) →
      ofValues values hierarchies = .ok (ofSeeds seeds chains)) ∧
    (NumbersKept chains seeds ↔
      ForEachSeed (fun before seed => seed.isUnnamed = true → ∀ n, 0 < n → n ≤ unnamedCount before →
        (ofSeeds before chains).isLive (Text.ofNat n) = true) seeds) ∧
    (Undisplaced chains seeds → NumbersKept chains seeds) ∧
    (chains.Pairwise List.Disjoint → NumbersKept chains seeds → Undisplaced chains seeds) ∧
    (NumbersKept chains seeds → ∀ before seed behind, seeds = before ++ seed :: behind → seed.isUnnamed = true →
      (ofSeeds (before ++ [seed]) chains).Retains ⟨Text.ofNat (unnamedCount before + 1), seed.value, true⟩ ∧
        (MutualChains chains →
          (ofSeeds seeds chains).Retains ⟨Text.ofNat (unnamedCount before + 1), seed.value, true⟩)) := by
  refine ⟨ofValues_of_noNumericKeys hseeds hchains hnamed, numbersKept_iff_isLive hnamed, fun h => h.numbersKept hnamed,
    fun hdisjoint h => h.undisplaced hnamed hdisjoint, ?_⟩
  intro h before seed behind hsplit hunnamed
  have hkey : registeredKey chains before seed = Text.ofNat (unnamedCount before + 1) := by
    rw [h before seed behind hsplit, numberedKey, if_pos hunnamed]
  have hentry : ((ofSeeds before chains).paramOf seed.toRegistration).asSuperseded =
      ⟨Text.ofNat (unnamedCount before + 1), seed.value, true⟩ := by
    rw [← hkey, registeredKey, paramOf_of_isUnnamed _ hunnamed]
    rfl
  have hown : (ofSeeds (before ++ [seed]) chains).Retains ⟨Text.ofNat (unnamedCount before + 1), seed.value, true⟩ := by
    rw [ofSeeds_append_singleton, ← hentry]
    exact retains_addSeed_self _ seed
  refine ⟨hown, fun hmutual => ?_⟩
  have hall := hown.ofSeeds_append hmutual behind
  rwa [List.append_assoc, List.singleton_append, ← hsplit] at hall

/-- The first number, and a name that has priority over it. -/
def userChains : List (List Text) := [["1".toList, "user".toList]]

/-- Two unnamed seeds, and then one under the name. -/
def userLast : List Seed := [{ value := ['a'] }, { value := ['b'] }, { value := ['c'], key := some "user".toList }]

/-- The name displaces the first number when the second one is given already. -/
theorem numbersKept_userLast :
    NumbersKept userChains userLast ∧
      ofValues (.list [.tuple [.null, .text ['a']], .tuple [.null, .text ['b']],
        .tuple [.text "user".toList, .text ['c']]]) (chainsValue userChains) = .ok (ofSeeds userLast userChains) ∧
      (ofSeeds userLast userChains).order = [['2'], "user".toList] ∧
      (ofSeeds userLast userChains).Retains ⟨['1'], ['a'], true⟩ := by
  have hseeds : readSeeds (.list [.tuple [.null, .text ['a']], .tuple [.null, .text ['b']],
      .tuple [.text "user".toList, .text ['c']]]) = .ok userLast := rfl
  have hchains : readChains (chainsValue userChains) = .ok userChains := rfl
  have hnamed : NoNumericKeys userLast := by decide
  obtain ⟨hmade, hkept, -, -, hheld⟩ := numbersKept_iff hseeds hchains hnamed
  have hnumbers : NumbersKept userChains userLast := by
    refine hkept.mpr ?_
    change ForEachSeed _ ((([] ++ [_]) ++ [_]) ++ [_])
    simp only [forEachSeed_append_singleton]
    refine ⟨⟨⟨fun before seed behind hsplit => by simp at hsplit, fun _ n hpos hn => ?_⟩, fun _ n hpos hn => ?_⟩,
      fun hunnamed => absurd hunnamed (by decide)⟩
    · have hnone : unnamedCount [] = 0 := rfl
      omega
    · obtain rfl : n = 1 := Nat.le_antisymm hn hpos
      decide
  have hdisjoint : userChains.Pairwise List.Disjoint := by simp [userChains]
  refine ⟨hnumbers, hmade ?_, by decide, ?_⟩
  · decide
  · exact (hheld hnumbers [] _ _ rfl rfl).2 (mutualChains_of_disjoint hdisjoint)

/-- One unnamed seed, one under the name, and another unnamed one. -/
def userBetween : List Seed := [{ value := ['a'] }, { value := ['b'], key := some "user".toList }, { value := ['c'] }]

/-- The second unnamed seed is given the first number again, and goes on record beside the name. -/
theorem not_numbersKept_userBetween :
    NoNumericKeys userBetween ∧ ¬ NumbersKept userChains userBetween ∧
      ∃ t, ofValues (.list [.tuple [.null, .text ['a']], .tuple [.text "user".toList, .text ['b']],
          .tuple [.null, .text ['c']]]) (chainsValue userChains) = .ok t ∧
        t.order = ["user".toList] ∧
        t.live.map (fun entry => entry.2.superseded) = [[⟨['1'], ['a'], true⟩, ⟨['1'], ['c'], true⟩]] := by
  refine ⟨by decide, fun h => ?_, _, rfl, by decide, by decide⟩
  have hkey := h [userBetween[0], userBetween[1]] userBetween[2] [] rfl
  revert hkey
  decide

end

end ParamTable

end PageMarkup
