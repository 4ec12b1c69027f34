import PageMarkup.Proofs.Param.Rivals

/-!
# Tables with chains that do not meet

If no key is in two chains, the keys fall into groups, and each group has one live key at most. The parameter under it
keeps on record what other keys of the group have stood for. So to look a key up, or to delete it, through its chain is
to find the live key of its group: `ParamTable.consistent_run_of_ofValues` has all this of every table that was made of
seeds, whatever calls came after.
-/
namespace PageMarkup.ParamTable

/-- The order agrees with the live keys, each parameter fits its key, no two live keys are akin, and what is on record
beside a live key was under keys akin to it. -/
structure Consistent (t : ParamTable) : Prop where
  ordered : t.Ordered
  fits : ∀ key p, Keyed.get? key t.live = some p → p.Fits key
  alone : ∀ key other, t.isLive key = true → t.isLive other = true → Akin t.chains key other → key = other
  akin : ∀ key p, Keyed.get? key t.live = some p → ∀ d ∈ p.superseded, Akin t.chains d.key key

/-! ## Records -/

theorem mem_addSuperseded {d e : Superseded} {repeatable : Bool} {ds : List Superseded}
    (h : d ∈ addSuperseded e repeatable ds) : d ∈ ds ∨ d = e := by
  unfold addSuperseded at h
  split at h
  · simpa using h
  · exact Or.inl h

@[simp] theorem superseded_paramOf (t : ParamTable) (r : Registration) : (t.paramOf r).superseded = [] := by
  unfold paramOf
  dsimp only
  split <;> rfl

/-- What is on record beside a live key after a registration was there before, or comes from a key that is akin. -/
theorem akin_register {t : ParamTable} (hdisjoint : t.chains.Pairwise List.Disjoint)
    (hfits : ∀ key p, Keyed.get? key t.live = some p → p.key = key)
    (ht : ∀ key p, Keyed.get? key t.live = some p → ∀ d ∈ p.superseded, Akin t.chains d.key key) (r : Registration) :
    ∀ key p, Keyed.get? key (t.register r).2.live = some p → ∀ d ∈ p.superseded, Akin t.chains d.key key := by
  intro key p hget d hd
  -- Under the key of the changed parameter the records are old ones and one more; elsewhere nothing has changed.
  obtain ⟨-, h⟩ | ⟨-, -, h⟩ | ⟨old, -, hold, h⟩ | ⟨live, hover, h⟩ | ⟨loser, hover, h⟩ := t.register_cases r
  · rw [h] at hget
    exact ht key p hget d hd
  · rw [h] at hget
    obtain ⟨rfl, rfl⟩ | hget := Keyed.get?_put_cases hget
    · simp at hd
    · exact ht key p hget d hd
  · rw [h] at hget
    unfold replaceLive at hget
    have hbefore : ∀ e ∈ old.superseded, Akin t.chains e.key (t.paramOf r).key := ht _ old hold
    split at hget
    · obtain ⟨rfl, rfl⟩ | hget := Keyed.get?_put_cases hget
      · obtain hd | hd := List.mem_append.mp hd
        · exact hbefore d hd
        · obtain rfl := List.mem_singleton.mp hd
          exact Or.inl (hfits _ old hold)
      · exact ht key p hget d hd
    · obtain ⟨rfl, rfl⟩ | hget := Keyed.get?_put_cases hget
      · exact hbefore d hd
      · exact ht key p hget d hd
  · rw [h] at hget
    unfold recordBeside at hget
    split at hget
    · rename_i winner hwinner
      obtain ⟨rfl, rfl⟩ | hget := Keyed.get?_put_cases hget
      · obtain hd | rfl := mem_addSuperseded hd
        · exact ht key winner hwinner d hd
        · obtain ⟨-, -, chain, hdeciding, hmem, -⟩ := override?_eq_overridden hover
          exact (akin_iff_mem hdisjoint hdeciding).mpr hmem
      · exact ht key p hget d hd
    · exact ht key p hget d hd
  · rw [h] at hget
    obtain ⟨rfl, rfl⟩ | hget := Keyed.get?_put_cases hget
    · obtain ⟨hlive, -, houtranks⟩ := override?_eq_overrides hover
      obtain ⟨old, hold⟩ := isLive_iff.mp hlive
      have hloser : Akin t.chains loser (t.paramOf r).key := houtranks.akin.symm
      simp only [hold] at hd
      obtain hd | rfl := mem_addSuperseded hd
      · exact (ht loser old hold d hd).trans hdisjoint hloser
      · have hkey : old.asSuperseded.key = loser := hfits loser old hold
        exact hkey ▸ hloser
    · rw [Keyed.get?_erase] at hget
      split at hget
      · simp at hget
      · exact ht key p hget d hd

/-! ## Groups -/

/-- Under chains that do not meet every table is consistent. -/
theorem Reached.consistent {chains : List (List Text)} (hdisjoint : chains.Pairwise List.Disjoint) {t : ParamTable}
    (ht : Reached chains t) : t.Consistent := by
  obtain ⟨hordered, hrivals⟩ := ht.ordered_and_noRivals (mutualChains_of_disjoint hdisjoint)
  refine ⟨hordered, fun key p => ht.fits, ?_, ?_⟩
  · intro key other hkey hother hakin
    rw [ht.chains_eq] at hakin
    by_contra hne
    obtain houtranks | houtranks := hakin.outranks_or_outranks hdisjoint hne
    · exact hrivals key other hkey hother (ht.chains_eq.symm ▸ houtranks)
    · exact hrivals other key hother hkey (ht.chains_eq.symm ▸ houtranks)
  · clear hordered hrivals
    induction ht with
    | empty =>
      intro key p hget
      simp [ParamTable.empty, Keyed.get?] at hget
    | @register t ht r ih =>
      rw [chains_register]
      exact akin_register (ht.chains_eq.symm ▸ hdisjoint) (fun key p hget => (ht.fits hget).key_eq) ih r
    | @erase t ht erased ih =>
      intro key p hget
      rw [ParamTable.erase, Keyed.get?_erase] at hget
      split at hget
      · simp at hget
      · exact ih key p hget

/-- A key is resolved to the live key of its group. -/
theorem Consistent.resolve_eq {t : ParamTable} (ht : t.Consistent) (hdisjoint : t.chains.Pairwise List.Disjoint)
    {key live : Text} (hakin : Akin t.chains key live) (hlive : t.isLive live = true) : t.resolve key = live := by
  unfold resolve
  rw [chainOf?_eq]
  split
  · rename_i chain hchain
    have hmem : live ∈ chain := (akin_iff_mem hdisjoint hchain).mp hakin
    obtain ⟨found, hfound⟩ : ∃ found, chain.reverse.find? t.isLive = some found := by
      rw [← Option.isSome_iff_exists, List.find?_isSome]
      exact ⟨live, List.mem_reverse.mpr hmem, hlive⟩
    have hfoundmem : found ∈ chain := List.mem_reverse.mp (List.mem_of_find?_eq_some hfound)
    have hfoundakin : Akin t.chains found live :=
      (((akin_iff_mem hdisjoint hchain).mpr hfoundmem).symm).trans hdisjoint hakin
    rw [hfound, Option.getD_some]
    exact ht.alone found live (List.find?_some hfound) hlive hfoundakin
  · rename_i hchain
    exact (akin_iff_eq hchain).mp hakin

theorem akin_resolve (t : ParamTable) (key : Text) : Akin t.chains key (t.resolve key) := by
  unfold resolve
  rw [chainOf?_eq]
  split
  · rename_i chain hchain
    obtain ⟨hmem, hkey⟩ := mem_of_decidingChain? hchain
    cases hfound : chain.reverse.find? t.isLive with
    | none => exact akin_refl _ _
    | some found => exact Or.inr ⟨chain, hmem, hkey, List.mem_reverse.mp (List.mem_of_find?_eq_some hfound)⟩
  · exact akin_refl _ _

/-- What is found through the chain of a key is the parameter under the live key of its group. -/
theorem Consistent.find?_resolved_eq_some_iff {t : ParamTable} (ht : t.Consistent)
    (hdisjoint : t.chains.Pairwise List.Disjoint) (key : Text) (p : Param) :
    t.find? key true = some p ↔ ∃ live, Akin t.chains key live ∧ Keyed.get? live t.live = some p := by
  unfold find?
  rw [if_pos rfl]
  constructor
  · exact fun hget => ⟨t.resolve key, t.akin_resolve key, hget⟩
  · rintro ⟨live, hakin, hget⟩
    rwa [ht.resolve_eq hdisjoint hakin (isLive_iff.mpr ⟨p, hget⟩)]

/-- A deletion through the chain of a key leaves no live key in its group. -/
theorem Consistent.isLive_delete {t u : ParamTable} (ht : t.Consistent) (hdisjoint : t.chains.Pairwise List.Disjoint)
    {key other : Text} {answer : Bool} (h : t.delete (.text key) true = .ok (answer, u))
    (hakin : Akin t.chains key other) : u.isLive other = false := by
  obtain ⟨k, hk, hresult⟩ := delete_eq_ok h
  obtain rfl : key = k := by simpa using hk
  rw [if_pos rfl] at hresult
  have hdead : other ≠ t.resolve key → t.isLive other = false := by
    intro hne
    rw [Bool.eq_false_iff]
    exact fun hlive => hne (ht.resolve_eq hdisjoint hakin hlive).symm
  by_cases hother : other = t.resolve key
  · subst hother
    split at hresult
    · obtain rfl : u = t.erase (t.resolve key) := congrArg Prod.snd hresult
      rw [Bool.eq_false_iff]
      simp
    · rename_i hlive
      obtain rfl : u = t := congrArg Prod.snd hresult
      simpa using hlive
  · split at hresult
    · obtain rfl : u = t.erase (t.resolve key) := congrArg Prod.snd hresult
      rw [Bool.eq_false_iff]
      simp [hdead hother]
    · obtain rfl : u = t := congrArg Prod.snd hresult
      exact hdead hother

/-- A table that was made of seeds and chains that do not meet is consistent after whatever calls. To look a key up
through its chain is to find the parameter under the live key of its group, and to delete it through its chain leaves no
live key in the group. -/
theorem consistent_run_of_ofValues {seeds hierarchies : Value} {chains : List (List Text)} {t : ParamTable}
    (hchains : readChains hierarchies = .ok chains) (hdisjoint : chains.Pairwise List.Disjoint)
    (h : ofValues seeds hierarchies = .ok t) (edits : List Edit) :
    (t.run edits).chains = chains ∧ (t.run edits).Consistent ∧
      ∀ key,
        (∃ found, (t.run edits).get (.text key) true = .ok found ∧
          ∀ p, found = some p ↔ ∃ live, Akin chains key live ∧ Keyed.get? live (t.run edits).live = some p) ∧
        ∃ answer u, (t.run edits).delete (.text key) true = .ok (answer, u) ∧
          ∀ other, Akin chains key other → u.isLive other = false := by
  have hreached := reached_run_of_ofValues hchains h edits
  have hconsistent := hreached.consistent hdisjoint
  have hkept : (t.run edits).chains = chains := hreached.chains_eq
  have hdisjoint' : (t.run edits).chains.Pairwise List.Disjoint := hkept.symm ▸ hdisjoint
  refine ⟨hkept, hconsistent, fun key => ⟨⟨_, rfl, fun p => ?_⟩, _, _, rfl, fun other hakin => ?_⟩⟩
  · rw [← hkept]
    exact hconsistent.find?_resolved_eq_some_iff hdisjoint' key p
  · rw [← hkept] at hakin
    exact hconsistent.isLive_delete hdisjoint' rfl hakin

/-- Seeds under both keys of one chain, and one without a key. -/
def pairedSeeds : Value :=
  .list [.tuple [.text ['a'], .text ['1']], .tuple [.text ['b'], .text ['2']], .tuple [.null, .text ['3']]]

/-- Two chains without a common key, one of which has a key twice. -/
def pairedChains : List (List Text) := [[['a'], ['b'], ['a']], [['c'], ['1']]]

theorem consistent_run_of_pairedSeeds :
    ∃ t, ofValues pairedSeeds (chainsValue pairedChains) = .ok t ∧
      (t.run [insertEmpty ['a'], .insert .null (.text ['4']) true .null, .delete (.text ['c']) true]).Consistent := by
  have hread : readChains (chainsValue pairedChains) = .ok pairedChains := rfl
  have hdisjoint : pairedChains.Pairwise List.Disjoint := by simp [pairedChains, List.Disjoint]
  obtain ⟨t, ht⟩ : ∃ t, ofValues pairedSeeds (chainsValue pairedChains) = .ok t := ⟨_, rfl⟩
  exact ⟨t, ht, (consistent_run_of_ofValues hread hdisjoint ht _).2.1⟩

end PageMarkup.ParamTable
