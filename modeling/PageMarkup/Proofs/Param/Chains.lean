import PageMarkup.Proofs.Param.Register
import PageMarkup.Proofs.Param.Order

/-!
# Keys of one chain

A key is looked for in the first chain that holds it, which decides on the key. When a key is registered, another live
key of that chain gives way to it or keeps it out, by their places in the chain. Chains may overlap, and then two keys
need not see each other in the same way: `MutualChains` says when they do, and chains without a common key are mutual.
-/
namespace PageMarkup.ParamTable

/-- The chain that decides on a key is the first that holds it. -/
def decidingChain? (chains : List (List Text)) (key : Text) : Option (List Text) := chains.find? (·.contains key)

/-- Whether a key has priority over another: the other one comes before it in the chain that decides on the key. -/
def Outranks (chains : List (List Text)) (high low : Text) : Prop :=
  ∃ chain, decidingChain? chains high = some chain ∧ low ∈ chain ∧ chain.idxOf low < chain.idxOf high

/-- Whether every key that has priority over another is in the chain that decides on that other one. No parameter has
an empty key, so an empty key does not count. -/
def MutualChains (chains : List (List Text)) : Prop :=
  ∀ high low, high ≠ [] → low ≠ [] → Outranks chains high low →
    ∃ chain, decidingChain? chains low = some chain ∧ high ∈ chain

theorem chainOf?_eq (t : ParamTable) (key : Text) : t.chainOf? key = decidingChain? t.chains key := rfl

theorem mem_of_decidingChain? {chains : List (List Text)} {key : Text} {chain : List Text}
    (h : decidingChain? chains key = some chain) : chain ∈ chains ∧ key ∈ chain :=
  ⟨List.mem_of_find?_eq_some h, by simpa using List.find?_some h⟩

theorem exists_decidingChain? {chains : List (List Text)} {key : Text} {chain : List Text} (hchain : chain ∈ chains)
    (hkey : key ∈ chain) : ∃ first, decidingChain? chains key = some first := by
  rw [← Option.isSome_iff_exists, decidingChain?, List.find?_isSome]
  exact ⟨chain, hchain, by simpa using hkey⟩

/-- Two keys that are each in the chain that decides on the other have one deciding chain. -/
theorem decidingChain?_unique {chains : List (List Text)} {k l : Text} {c d : List Text}
    (hk : decidingChain? chains k = some c) (hl : decidingChain? chains l = some d) (hlc : l ∈ c) (hkd : k ∈ d) :
    c = d := by
  induction chains with
  | nil => simp [decidingChain?] at hk
  | cons first rest ih =>
    by_cases hkf : k ∈ first
    · have hc : first = c := by simpa [decidingChain?, hkf] using hk
      have hd : first = d := by simpa [decidingChain?, hc, hlc] using hl
      exact hc.symm.trans hd
    · have hlf : l ∉ first := by
        intro hlf
        have hd : first = d := by simpa [decidingChain?, hlf] using hl
        exact hkf (hd ▸ hkd)
      have hk' : decidingChain? rest k = some c := by simpa [decidingChain?, hkf] using hk
      have hl' : decidingChain? rest l = some d := by simpa [decidingChain?, hlf] using hl
      exact ih hk' hl'

theorem not_outranks_self (chains : List (List Text)) (key : Text) : ¬ Outranks chains key key := by
  rintro ⟨chain, -, -, hlt⟩
  exact Nat.lt_irrefl _ hlt

/-! ## Live keys of one chain -/

/-- How a key relates to the live ones depends on their keys alone. -/
theorem override?_congr {t u : ParamTable} (hkeys : Keyed.keys u.live = Keyed.keys t.live)
    (hchains : u.chains = t.chains) (key : Text) : u.override? key = t.override? key := by
  have hkeyed : ∀ s : ParamTable, s.override? key = (decidingChain? s.chains key).bind fun chain =>
      ((Keyed.keys s.live).find? fun k => k ≠ key && chain.contains k).map fun other =>
        if chain.idxOf other < chain.idxOf key then .overrides other else .overridden other := by
    intro s
    unfold override?
    rw [chainOf?_eq, Option.bind_eq_bind]
    congr 1
    funext chain
    rw [Keyed.keys, List.find?_map, Option.map_map]
    exact Option.map_eq_bind.symm
  rw [hkeyed, hkeyed, hkeys, hchains]

/-- A key stands alone if no other key of its chain is live. -/
theorem override?_eq_none_iff {t : ParamTable} {key : Text} :
    t.override? key = none ↔
      ∀ chain, decidingChain? t.chains key = some chain →
        ∀ other ∈ chain, other ≠ key → t.isLive other = false := by
  unfold override?
  rw [chainOf?_eq]
  cases hchain : decidingChain? t.chains key with
  | none => simp
  | some chain =>
    cases hfind : t.live.find? fun entry => entry.1 ≠ key && chain.contains entry.1 with
    | none =>
      simp only [Option.bind_eq_bind, Option.bind_some, hfind, Option.bind_none, true_iff, Option.some.injEq]
      rintro _ rfl other hmem hne
      rw [Bool.eq_false_iff]
      intro hlive
      obtain ⟨⟨_, p⟩, hentry, rfl⟩ := List.mem_map.mp (isLive_iff_mem_keys.mp hlive)
      have hnot := List.find?_eq_none.mp hfind _ hentry
      simp [hne, hmem] at hnot
    | some entry =>
      have hentry := List.mem_of_find?_eq_some hfind
      have hother := List.find?_some hfind
      simp only [Bool.and_eq_true, decide_eq_true_eq, List.contains_iff_mem] at hother
      have hlive : t.isLive entry.1 = true := isLive_of_mem hentry
      simp only [Option.bind_eq_bind, Option.bind_some, hfind]
      constructor
      · intro h
        simp at h
      · intro h
        simp [h chain rfl entry.1 hother.2 hother.1] at hlive

/-- What relates a key to a live key of its chain is their places in it. -/
theorem override?_eq_some {t : ParamTable} {key : Text} {relation : Override}
    (h : t.override? key = some relation) :
    ∃ chain other, decidingChain? t.chains key = some chain ∧ other ∈ chain ∧ other ≠ key ∧ t.isLive other = true ∧
      relation = if chain.idxOf other < chain.idxOf key then .overrides other else .overridden other := by
  unfold override? at h
  obtain ⟨chain, hchain, h⟩ := Option.bind_eq_some_iff.mp h
  obtain ⟨entry, hfind, h⟩ := Option.bind_eq_some_iff.mp h
  have hother := List.find?_some hfind
  simp only [Bool.and_eq_true, decide_eq_true_eq, List.contains_iff_mem] at hother
  have hlive : t.isLive entry.1 = true := isLive_of_mem (List.mem_of_find?_eq_some hfind)
  exact ⟨chain, entry.1, hchain, hother.2, hother.1, hlive, (Option.some.inj h).symm⟩

/-- A key gives way to one that has priority over it. -/
theorem override?_eq_overrides {t : ParamTable} {key loser : Text} (h : t.override? key = some (.overrides loser)) :
    t.isLive loser = true ∧ loser ≠ key ∧ Outranks t.chains key loser := by
  obtain ⟨chain, other, hchain, hmem, hne, hlive, hrelation⟩ := override?_eq_some h
  split at hrelation
  · rename_i hlt
    obtain rfl : loser = other := by simpa using hrelation
    exact ⟨hlive, hne, chain, hchain, hmem, hlt⟩
  · simp at hrelation

/-- A live key keeps out one that comes before it. -/
theorem override?_eq_overridden {t : ParamTable} {key winner : Text}
    (h : t.override? key = some (.overridden winner)) :
    t.isLive winner = true ∧ winner ≠ key ∧
      ∃ chain, decidingChain? t.chains key = some chain ∧ winner ∈ chain ∧ chain.idxOf key < chain.idxOf winner := by
  obtain ⟨chain, other, hchain, hmem, hne, hlive, hrelation⟩ := override?_eq_some h
  split at hrelation
  · simp at hrelation
  · rename_i hge
    obtain rfl : winner = other := by simpa using hrelation
    have hplace : chain.idxOf key ≠ chain.idxOf winner := fun heq =>
      hne ((List.idxOf_inj (mem_of_decidingChain? hchain).2).mp heq).symm
    exact ⟨hlive, hne, chain, hchain, hmem, by omega⟩

/-! ## Chains without a common key -/

/-- Of chains without a common key each decides on all of its keys. -/
theorem decidingChain?_eq_some_iff {chains : List (List Text)} (hdisjoint : chains.Pairwise List.Disjoint)
    {key : Text} {chain : List Text} :
    decidingChain? chains key = some chain ↔ chain ∈ chains ∧ key ∈ chain := by
  refine ⟨mem_of_decidingChain?, fun ⟨hchain, hkey⟩ => ?_⟩
  induction chains with
  | nil => simp at hchain
  | cons first rest ih =>
    obtain ⟨hfirst, hrest⟩ := List.pairwise_cons.mp hdisjoint
    by_cases hmem : key ∈ first
    · have heq : chain = first := by
        obtain rfl | hlater := List.mem_cons.mp hchain
        · rfl
        · exact absurd hkey (hfirst chain hlater hmem)
      simp [decidingChain?, hmem, heq]
    · have hlater : chain ∈ rest := by
        obtain rfl | hlater := List.mem_cons.mp hchain
        · exact absurd hkey hmem
        · exact hlater
      have hdeciding : decidingChain? (first :: rest) key = decidingChain? rest key := by
        simp [decidingChain?, hmem]
      rw [hdeciding]
      exact ih hrest ⟨hlater, hkey⟩ hlater

/-- One chain of those without a common key holds a key. -/
theorem chain_unique {chains : List (List Text)} (hdisjoint : chains.Pairwise List.Disjoint) {key : Text}
    {c d : List Text} (hc : c ∈ chains) (hd : d ∈ chains) (hkc : key ∈ c) (hkd : key ∈ d) : c = d := by
  have hfirst := (decidingChain?_eq_some_iff hdisjoint).mpr ⟨hc, hkc⟩
  have hsecond := (decidingChain?_eq_some_iff hdisjoint).mpr ⟨hd, hkd⟩
  exact Option.some.inj (hfirst.symm.trans hsecond)

/-! ## Kinship -/

/-- Keys are akin if they are the same or in one chain. -/
def Akin (chains : List (List Text)) (key other : Text) : Prop :=
  key = other ∨ ∃ chain ∈ chains, key ∈ chain ∧ other ∈ chain

instance (chains : List (List Text)) (key other : Text) : Decidable (Akin chains key other) :=
  inferInstanceAs (Decidable (_ ∨ _))

theorem akin_refl (chains : List (List Text)) (key : Text) : Akin chains key key := Or.inl rfl

theorem Akin.symm {chains : List (List Text)} {key other : Text} (h : Akin chains key other) :
    Akin chains other key := by
  obtain rfl | ⟨chain, hchain, hkey, hother⟩ := h
  · exact akin_refl chains key
  · exact Or.inr ⟨chain, hchain, hother, hkey⟩

theorem Akin.trans {chains : List (List Text)} (hdisjoint : chains.Pairwise List.Disjoint) {a b c : Text}
    (hab : Akin chains a b) (hbc : Akin chains b c) : Akin chains a c := by
  obtain rfl | ⟨chain, hchain, ha, hb⟩ := hab
  · exact hbc
  · obtain rfl | ⟨other, hother, hb', hc⟩ := hbc
    · exact Or.inr ⟨chain, hchain, ha, hb⟩
    · obtain rfl : chain = other := chain_unique hdisjoint hchain hother hb hb'
      exact Or.inr ⟨chain, hchain, ha, hc⟩

theorem Outranks.akin {chains : List (List Text)} {high low : Text} (h : Outranks chains high low) :
    Akin chains high low := by
  obtain ⟨chain, hdeciding, hlow, -⟩ := h
  obtain ⟨hchain, hhigh⟩ := mem_of_decidingChain? hdeciding
  exact Or.inr ⟨chain, hchain, hhigh, hlow⟩

/-- The keys akin to one that a chain decides on are those of the chain. -/
theorem akin_iff_mem {chains : List (List Text)} (hdisjoint : chains.Pairwise List.Disjoint) {key other : Text}
    {chain : List Text} (h : decidingChain? chains key = some chain) : Akin chains key other ↔ other ∈ chain := by
  obtain ⟨hchain, hkey⟩ := mem_of_decidingChain? h
  constructor
  · rintro (rfl | ⟨c, hc, hkeyc, hother⟩)
    · exact hkey
    · obtain rfl : c = chain := chain_unique hdisjoint hc hchain hkeyc hkey
      exact hother
  · exact fun hother => Or.inr ⟨chain, hchain, hkey, hother⟩

/-- A key that no chain decides on is akin to itself alone. -/
theorem akin_iff_eq {chains : List (List Text)} {key other : Text} (h : decidingChain? chains key = none) :
    Akin chains key other ↔ key = other := by
  constructor
  · rintro (rfl | ⟨chain, hchain, hkey, -⟩)
    · rfl
    · obtain ⟨first, hfirst⟩ := exists_decidingChain? hchain hkey
      simp [hfirst] at h
  · rintro rfl
    exact akin_refl chains key

/-- Of two keys that are akin one has priority over the other. -/
theorem Akin.outranks_or_outranks {chains : List (List Text)} (hdisjoint : chains.Pairwise List.Disjoint)
    {key other : Text} (h : Akin chains key other) (hne : key ≠ other) :
    Outranks chains key other ∨ Outranks chains other key := by
  obtain rfl | ⟨chain, hchain, hkey, hother⟩ := h
  · exact absurd rfl hne
  · have hplace : chain.idxOf key ≠ chain.idxOf other := fun heq => hne ((List.idxOf_inj hkey).mp heq)
    have hdeciding : ∀ k ∈ chain, decidingChain? chains k = some chain :=
      fun k hk => (decidingChain?_eq_some_iff hdisjoint).mpr ⟨hchain, hk⟩
    obtain hlt | hlt := Nat.lt_or_gt_of_ne hplace
    · exact Or.inr ⟨chain, hdeciding other hother, hkey, hlt⟩
    · exact Or.inl ⟨chain, hdeciding key hkey, hother, hlt⟩

/-- Priority goes from key to key. -/
theorem Outranks.trans {chains : List (List Text)} (hdisjoint : chains.Pairwise List.Disjoint) {a b c : Text}
    (hab : Outranks chains a b) (hbc : Outranks chains b c) : Outranks chains a c := by
  obtain ⟨chain, hchain, hb, hlt⟩ := hab
  obtain ⟨other, hother, hc, hlt'⟩ := hbc
  obtain ⟨hmem, -⟩ := mem_of_decidingChain? hchain
  obtain ⟨hmem', hb'⟩ := mem_of_decidingChain? hother
  obtain rfl : chain = other := chain_unique hdisjoint hmem hmem' hb hb'
  exact ⟨chain, hchain, hc, Nat.lt_trans hlt' hlt⟩

theorem Outranks.asymm {chains : List (List Text)} (hdisjoint : chains.Pairwise List.Disjoint) {a b : Text}
    (h : Outranks chains a b) : ¬ Outranks chains b a := fun hback =>
  not_outranks_self chains a (h.trans hdisjoint hback)

theorem mutualChains_of_disjoint {chains : List (List Text)} (hdisjoint : chains.Pairwise List.Disjoint) :
    MutualChains chains := by
  rintro high low - - ⟨chain, hdeciding, hlow, -⟩
  obtain ⟨hchain, hhigh⟩ := mem_of_decidingChain? hdeciding
  exact ⟨chain, (decidingChain?_eq_some_iff hdisjoint).mpr ⟨hchain, hlow⟩, hhigh⟩

end PageMarkup.ParamTable
