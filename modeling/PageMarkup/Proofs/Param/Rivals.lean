import PageMarkup.Proofs.Param.Chains
import PageMarkup.Proofs.Param.Fits

/-!
# Order under chains that overlap

The one change that can spoil the order of a table is a live key that takes the place of another live key of lower
priority: then the key is listed twice. If the chains are mutual, no two such keys are ever live together, and the order
of every table lists each live key once. If they are not, three insertions are enough for a key that is listed twice.
So mutual chains are exactly those under which orders and live keys agree (`ParamTable.ordered_run_iff_mutualChains`).
-/
namespace PageMarkup.ParamTable

/-- Whether no live key has priority over another one. -/
def NoRivals (t : ParamTable) : Prop :=
  ∀ high low, t.isLive high = true → t.isLive low = true → ¬ Outranks t.chains high low

/-- Under mutual chains one chain decides on two keys of which one has priority over the other. -/
theorem MutualChains.exists_decidingChain? {chains : List (List Text)} (hmutual : MutualChains chains)
    {high low : Text} (hhigh : high ≠ []) (hlow : low ≠ []) (h : Outranks chains high low) :
    ∃ chain, decidingChain? chains high = some chain ∧ decidingChain? chains low = some chain ∧
      chain.idxOf low < chain.idxOf high := by
  obtain ⟨other, hother, hmem⟩ := hmutual high low hhigh hlow h
  obtain ⟨chain, hchain, hlowmem, hlt⟩ := h
  have heq : chain = other := decidingChain?_unique hchain hother hlowmem hmem
  exact ⟨chain, hchain, heq ▸ hother, hlt⟩

theorem NoRivals.of_isLive {t u : ParamTable} (ht : t.NoRivals) (hchains : u.chains = t.chains)
    (hlive : ∀ key, u.isLive key = true → t.isLive key = true) : u.NoRivals := by
  intro high low hhigh hlow h
  rw [hchains] at h
  exact ht high low (hlive high hhigh) (hlive low hlow) h

/-- A key that stands alone is no rival of a live one. -/
theorem NoRivals.addNew {t : ParamTable} (ht : t.NoRivals) (hmutual : MutualChains t.chains)
    (hkeys : ∀ key, t.isLive key = true → key ≠ []) {p : Param} (hp : p.key ≠ [])
    (hover : t.override? p.key = none) (position : Option Position) : (t.addNew p position).NoRivals := by
  have halone := override?_eq_none_iff.mp hover
  intro high low hhigh hlow houtranks
  change Outranks t.chains high low at houtranks
  obtain rfl | hhigh := (isLive_addNew t p position high).mp hhigh
  · obtain rfl | hlow := (isLive_addNew t p position low).mp hlow
    · exact not_outranks_self _ _ houtranks
    · have hne : low ≠ p.key := by
        rintro rfl
        exact not_outranks_self _ _ houtranks
      obtain ⟨chain, hchain, hmem, -⟩ := houtranks
      simp [halone chain hchain low hmem hne] at hlow
  · obtain rfl | hlow := (isLive_addNew t p position low).mp hlow
    · have hne : high ≠ p.key := by
        rintro rfl
        exact not_outranks_self _ _ houtranks
      obtain ⟨chain, hchain, hmem⟩ := hmutual high p.key (hkeys high hhigh) hp houtranks
      simp [halone chain hchain high hmem hne] at hhigh
    · exact ht high low hhigh hlow houtranks

/-- A key that takes the place of another is no rival of those that are left: of its chain no third key is live that
comes before it or behind it. -/
theorem NoRivals.evict {t : ParamTable} (ht : t.NoRivals) (hmutual : MutualChains t.chains)
    (hkeys : ∀ key, t.isLive key = true → key ≠ []) {p : Param} (hp : p.key ≠ []) {loser : Text}
    (hloser : t.isLive loser = true) (houtranks : Outranks t.chains p.key loser) (position : Option Position)
    (initial : Bool) : (t.evict loser p position initial).NoRivals := by
  obtain ⟨chain, hchain, hchainloser, hlt⟩ := hmutual.exists_decidingChain? hp (hkeys loser hloser) houtranks
  intro high low hhigh hlow h
  change Outranks t.chains high low at h
  obtain rfl | ⟨hhighne, hhigh⟩ := (isLive_evict t loser p position initial high).mp hhigh
  · obtain rfl | ⟨hlowne, hlow⟩ := (isLive_evict t loser p position initial low).mp hlow
    · exact not_outranks_self _ _ h
    · -- The key that is left and the one that gave way would have been rivals.
      obtain ⟨other, hother, hotherlow, -⟩ := hmutual.exists_decidingChain? hp (hkeys low hlow) h
      obtain rfl : chain = other := Option.some.inj (hchain.symm.trans hother)
      have hlowmem := (mem_of_decidingChain? hotherlow).2
      have hlosermem := (mem_of_decidingChain? hchainloser).2
      have hplace : chain.idxOf low ≠ chain.idxOf loser := fun heq => hlowne ((List.idxOf_inj hlowmem).mp heq)
      obtain hbefore | hbehind := Nat.lt_or_gt_of_ne hplace
      · exact ht loser low hloser hlow ⟨chain, hchainloser, hlowmem, hbefore⟩
      · exact ht low loser hlow hloser ⟨chain, hotherlow, hlosermem, hbehind⟩
  · obtain rfl | ⟨hlowne, hlow⟩ := (isLive_evict t loser p position initial low).mp hlow
    · obtain ⟨other, hotherhigh, hother, hbehind⟩ := hmutual.exists_decidingChain? (hkeys high hhigh) hp h
      obtain rfl : chain = other := Option.some.inj (hchain.symm.trans hother)
      have hlosermem := (mem_of_decidingChain? hchainloser).2
      exact ht high loser hhigh hloser ⟨chain, hotherhigh, hlosermem, by omega⟩
    · exact ht high low hhigh hlow h

/-- Under mutual chains the order of a table lists each live key once, and no live key has priority over another. -/
theorem Reached.ordered_and_noRivals {chains : List (List Text)} (hmutual : MutualChains chains) {t : ParamTable}
    (ht : Reached chains t) : t.Ordered ∧ t.NoRivals := by
  -- Neither half is kept alone: a key that takes another's place keeps the order only if it is not live, and that it is
  -- not live is known because the two would be rivals.
  induction ht with
  | empty => exact ⟨ordered_empty chains, fun high low hhigh => by simp at hhigh⟩
  | @register t ht r ih =>
    obtain ⟨hordered, hrivals⟩ := ih
    rw [← ht.chains_eq] at hmutual
    have hkeys : ∀ key, t.isLive key = true → key ≠ [] := fun key => ht.key_ne_nil
    have hp : (t.paramOf r).key ≠ [] := (t.fits_paramOf r).key_ne_nil
    obtain ⟨-, h⟩ | ⟨hover, hnew, h⟩ | ⟨old, -, hold, h⟩ | ⟨live, -, h⟩ | ⟨loser, hover, h⟩ := t.register_cases r
    · rw [h]
      exact ⟨hordered, hrivals⟩
    · rw [h]
      have hdead : t.isLive (t.paramOf r).key = false := by simp [isLive, Keyed.has, hnew]
      exact ⟨hordered.addNew hdead _, hrivals.addNew hmutual hkeys hp hover _⟩
    · have hlive : t.isLive (t.paramOf r).key = true := isLive_iff.mpr ⟨old, hold⟩
      have hchains := chains_register t r
      rw [h] at hchains ⊢
      refine ⟨hordered.replaceLive hlive _ _ _, hrivals.of_isLive hchains fun key hkey => ?_⟩
      obtain rfl | hkey := (isLive_replaceLive _ _ _ _ _ _).mp hkey
      · exact hlive
      · exact hkey
    · have hchains := chains_register t r
      rw [h] at hchains ⊢
      exact ⟨hordered.recordBeside _ _ _,
        hrivals.of_isLive hchains fun key hkey => (isLive_recordBeside _ _ _ _ _).mp hkey⟩
    · rw [h]
      obtain ⟨hloser, -, houtranks⟩ := override?_eq_overrides hover
      have hdead : t.isLive (t.paramOf r).key = false := by
        rw [Bool.eq_false_iff]
        exact fun hlive => hrivals _ _ hlive hloser houtranks
      exact ⟨hordered.evict hloser hdead _ _, hrivals.evict hmutual hkeys hp hloser houtranks _ _⟩
  | erase _ key ih =>
    exact ⟨ih.1.erase key, ih.2.of_isLive rfl fun other hother => ((isLive_erase _ _ _).mp hother).2⟩

/-! ## Chains that are not mutual -/

/-- The call that inserts an empty value under a key. -/
def insertEmpty (key : Text) : Edit := .insert (.text key) (.text []) true .null

theorem after_insertEmpty {key : Text} (htrim : Text.trim key = key) (hne : key ≠ []) (t : ParamTable) :
    t.after (insertEmpty key) = (t.register { key, value := [] }).2 := by
  have hnamed : Text.trim key ≠ [] := htrim.symm ▸ hne
  have henter : t.call (insertEmpty key) = .ok (t.register { key, value := [] }) := insert_of_named hnamed rfl t [] true
  rw [after, henter]

/-- A key that is inserted, followed by one that does not see it and over which it has priority, and then by itself, is
listed twice. -/
theorem order_run_of_unseen {chains : List (List Text)} {high low : Text} (hhigh : Text.trim high = high)
    (hlow : Text.trim low = low) (hhighne : high ≠ []) (hlowne : low ≠ []) (houtranks : Outranks chains high low)
    (hunseen : ∀ chain, decidingChain? chains low = some chain → high ∉ chain) :
    ((empty chains).run [insertEmpty high, insertEmpty low, insertEmpty high]).order = [high, high] := by
  have hne : high ≠ low := by
    rintro rfl
    exact not_outranks_self _ _ houtranks
  obtain ⟨chain, hchain, hlowmem, hlt⟩ := houtranks
  have hparam : ∀ (t : ParamTable) {key : Text}, Text.trim key = key → key ≠ [] →
      t.paramOf { key, value := [] } = { key, value := [], unnamed := false } := by
    intro t key htrim hkey
    have hempty : Text.trim [] = [] := rfl
    rw [paramOf_of_named (by rwa [htrim])]
    simp only [htrim, hempty]
  -- The table after each of the three insertions, with parameters that have nothing but their keys.
  let p (key : Text) : Param := { key, value := [], unnamed := false }
  let first : ParamTable := ⟨[(high, p high)], [high], chains⟩
  let second : ParamTable := ⟨[(high, p high), (low, p low)], [high, low], chains⟩
  have hfirst : ((empty chains).register { key := high, value := [] }).2 = first := by
    rw [register_eq_addNew rfl, hparam _ hhigh hhighne]
    · rfl
    · exact override?_eq_none_iff.mpr fun _ _ _ _ _ => rfl
    · rfl
  have hsecond : (first.register { key := low, value := [] }).2 = second := by
    rw [register_eq_addNew rfl, hparam _ hlow hlowne]
    · simp [addNew, first, second, p, placeKey, Keyed.put, hne]
    · rw [hparam _ hlow hlowne]
      refine override?_eq_none_iff.mpr fun other hother key hkey _ => ?_
      have hkeyne : high ≠ key := fun heq => hunseen other hother (heq ▸ hkey)
      simp [isLive, Keyed.has, Keyed.get?, first, hkeyne]
    · rw [hparam _ hlow hlowne]
      simp [first, Keyed.get?, hne]
  have hover : second.override? high = some (.overrides low) := by
    simp [override?, chainOf?_eq, second, hchain, hne.symm, hlowmem, hlt]
  have hthird : (second.register { key := high, value := [] }).2.order = [high, high] := by
    have hdecides : second.override? (second.paramOf { key := high, value := [] }).key = some (.overrides low) := by
      rw [hparam _ hhigh hhighne]
      exact hover
    rw [register_eq_evict rfl rfl hdecides, hparam _ hhigh hhighne]
    simp [evict, second, hne]
  have hafter : ((empty chains).after (insertEmpty high)).after (insertEmpty low) = second := by
    rw [after_insertEmpty hhigh hhighne, hfirst, after_insertEmpty hlow hlowne, hsecond]
  simp only [run, List.foldl_cons, List.foldl_nil]
  rw [hafter, after_insertEmpty hhigh hhighne, hthird]

/-! ## The exact condition -/

/-- Orders and live keys agree in all tables with given hierarchies, after whatever calls, if and only if the chains are
mutual. Then each live parameter is among the parameters in order once. -/
theorem ordered_run_iff_mutualChains {hierarchies : Value} {chains : List (List Text)}
    (hread : readChains hierarchies = .ok chains) :
    (∀ (seeds : Value) (t : ParamTable) (edits : List Edit), ofValues seeds hierarchies = .ok t →
      (t.run edits).Ordered ∧
        ∃ params, (t.run edits).inOrder = .ok params ∧ params.Perm ((t.run edits).live.map Prod.snd)) ↔
      MutualChains chains := by
  have htrim := trimmedChains_readChains hread
  constructor
  · intro hall high low hhighne hlowne houtranks
    by_contra hunseen
    have ⟨chain, hchain, hlowmem, _⟩ := houtranks
    obtain ⟨hmem, hhighmem⟩ := mem_of_decidingChain? hchain
    have horder := order_run_of_unseen (htrim chain hmem high hhighmem) (htrim chain hmem low hlowmem) hhighne hlowne
      houtranks fun other hother hin => hunseen ⟨other, hother, hin⟩
    have hbuilt : ofValues (.list []) hierarchies = .ok (empty chains) :=
      Outcome.bind_eq_ok.mpr ⟨chains, hread, rfl⟩
    have hnodup := (hall (.list []) _ [insertEmpty high, insertEmpty low, insertEmpty high] hbuilt).1.nodup
    rw [horder] at hnodup
    simp at hnodup
  · intro hmutual seeds t edits hbuilt
    have hreached := reached_run_of_ofValues hread hbuilt edits
    have hordered := (hreached.ordered_and_noRivals hmutual).1
    exact ⟨hordered, hordered.exists_inOrder_perm hreached.distinctKeys⟩

/-- A chain that is part of the one before it does no harm. -/
theorem ordered_run_of_nestedChains :
    ∃ chains, readChains (chainsValue [[['a'], ['b']], [['b']]]) = .ok chains ∧
      ∀ (seeds : Value) (t : ParamTable) (edits : List Edit),
        ofValues seeds (chainsValue [[['a'], ['b']], [['b']]]) = .ok t →
          (t.run edits).Ordered ∧
            ∃ params, (t.run edits).inOrder = .ok params ∧ params.Perm ((t.run edits).live.map Prod.snd) := by
  have hread : readChains (chainsValue [[['a'], ['b']], [['b']]]) = .ok [[['a'], ['b']], [['b']]] := rfl
  refine ⟨_, hread, (ordered_run_iff_mutualChains hread).mpr ?_⟩
  rintro high low - - ⟨chain, hchain, hlow, -⟩
  obtain ⟨hmem, hhigh⟩ := mem_of_decidingChain? hchain
  -- Either chain is within the first one, which therefore decides on both keys.
  have hfirst : ∀ key ∈ chain, key ∈ [['a'], ['b']] := by
    intro key hkey
    obtain rfl | rfl : chain = [['a'], ['b']] ∨ chain = [['b']] := by simpa using hmem
    · exact hkey
    · exact List.mem_cons_of_mem _ hkey
  refine ⟨[['a'], ['b']], ?_, hfirst high hhigh⟩
  exact List.find?_cons_of_pos (List.contains_iff_mem.mpr (hfirst low hlow))

/-- Two chains with a key in common. -/
def overlappingChains : List (List Text) := [[['a'], ['b']], [['b'], ['c']]]

/-- The common key, inserted into a table with `c`, does not see it. Inserted again, `c` takes its place and is listed
twice, beside one parameter. Then the deletion of `c` leaves it in the order without a parameter. -/
theorem order_run_overlappingChains :
    ofValues (.list []) (chainsValue overlappingChains) = .ok (empty overlappingChains) ∧
      ((empty overlappingChains).run [insertEmpty ['c'], insertEmpty ['b'], insertEmpty ['c']]).order =
        [['c'], ['c']] ∧
      Keyed.keys ((empty overlappingChains).run [insertEmpty ['c'], insertEmpty ['b'], insertEmpty ['c']]).live =
        [['c']] ∧
      ((empty overlappingChains).run [insertEmpty ['c'], insertEmpty ['b'], insertEmpty ['c'],
        .delete (.text ['c']) false]).inOrder.toOption.isNone = true := by
  refine ⟨rfl, ?_, ?_, ?_⟩
  · decide
  · decide
  · decide

end PageMarkup.ParamTable
