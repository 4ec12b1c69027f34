import Mathlib.Data.Finset.Max
import PageMarkup.Proofs.Param.Chains
import PageMarkup.Proofs.Param.FreeKey

/-!
# What seeds amount to

What a table is to hold after its seeds can be said without a table. Each seed is entered under a key, its own or the
numeral of a number that is free. Of the keys of one group the one that has priority over all others leads, and the last
entry under it stands for the group, with all other entries of the group on record. That there is always a leading key
(`exists_leads`), and what one more entry changes (`leads_append_singleton`, `StandsFor.append_singleton`), is a matter
of entries and chains alone.
-/
namespace PageMarkup.ParamTable

/-! ## Leading keys -/

/-- A key leads if there is an entry under it and none under a key that has priority over it. -/
def Leads (chains : List (List Text)) (entries : List Param) (key : Text) : Prop :=
  (∃ e ∈ entries, e.key = key) ∧ ∀ e ∈ entries, ¬ Outranks chains e.key key

/-- The key of an entry leads, or one leads that has priority over it. -/
theorem exists_leads {chains : List (List Text)} (hdisjoint : chains.Pairwise List.Disjoint) {entries : List Param}
    {e : Param} (he : e ∈ entries) :
    ∃ key, Leads chains entries key ∧ (key = e.key ∨ Outranks chains key e.key) := by
  cases hchain : decidingChain? chains e.key with
  | none =>
    refine ⟨e.key, ⟨⟨e, he, rfl⟩, fun other _ houtranks => ?_⟩, Or.inl rfl⟩
    have heq : e.key = other.key := (akin_iff_eq hchain).mp houtranks.akin.symm
    exact not_outranks_self chains e.key (heq ▸ houtranks)
  | some chain =>
    obtain ⟨hmem, hkey⟩ := mem_of_decidingChain? hchain
    have hdeciding : ∀ k ∈ chain, decidingChain? chains k = some chain :=
      fun k hk => (decidingChain?_eq_some_iff hdisjoint).mpr ⟨hmem, hk⟩
    -- Of the keys of entries in the chain the last one leads.
    have hfound : e.key ∈ ((entries.map Param.key).filter (· ∈ chain)).toFinset := by
      rw [List.mem_toFinset, List.mem_filter]
      exact ⟨List.mem_map_of_mem he, by simpa using hkey⟩
    obtain ⟨last, hlast, hmax⟩ := Finset.exists_max_image _ (fun key => chain.idxOf key) ⟨_, hfound⟩
    rw [List.mem_toFinset, List.mem_filter, decide_eq_true_iff] at hlast
    obtain ⟨hentry, hlastmem⟩ := hlast
    obtain ⟨top, htop, htopkey⟩ := List.mem_map.mp hentry
    refine ⟨last, ⟨⟨top, htop, htopkey⟩, fun other hother houtranks => ?_⟩, ?_⟩
    · obtain ⟨c, hc, hlastc, hlt⟩ := houtranks
      obtain ⟨hcmem, hotherc⟩ := mem_of_decidingChain? hc
      obtain rfl : c = chain := chain_unique hdisjoint hcmem hmem hlastc hlastmem
      have hle := hmax other.key (by simpa using ⟨⟨other, hother, rfl⟩, hotherc⟩)
      omega
    · by_cases heq : last = e.key
      · exact Or.inl heq
      · have hplace : chain.idxOf last ≠ chain.idxOf e.key := fun h => heq ((List.idxOf_inj hlastmem).mp h)
        have hle := hmax e.key hfound
        exact Or.inr ⟨chain, hdeciding last hlastmem, hkey, by omega⟩

/-- After one more entry its key leads if no leading key has priority over it, and a key that led still leads if the new
one has no priority over it. -/
theorem leads_append_singleton {chains : List (List Text)} (hdisjoint : chains.Pairwise List.Disjoint)
    {entries : List Param} {e : Param} {key : Text} :
    Leads chains (entries ++ [e]) key ↔
      (key = e.key ∧ ∀ other, Leads chains entries other → ¬ Outranks chains other e.key) ∨
        (Leads chains entries key ∧ ¬ Outranks chains e.key key) := by
  constructor
  · rintro ⟨⟨own, hown, rfl⟩, hnone⟩
    have hbefore : ∀ x ∈ entries, ¬ Outranks chains x.key own.key := fun x hx => hnone x (List.mem_append_left _ hx)
    obtain hown | hown := List.mem_append.mp hown
    · exact Or.inr ⟨⟨⟨own, hown, rfl⟩, hbefore⟩, hnone e (by simp)⟩
    · obtain rfl := List.mem_singleton.mp hown
      refine Or.inl ⟨rfl, ?_⟩
      rintro _ ⟨⟨x, hx, rfl⟩, -⟩
      exact hbefore x hx
  · rintro (⟨rfl, hnone⟩ | ⟨⟨⟨own, hown, rfl⟩, hbefore⟩, hlast⟩)
    · refine ⟨⟨e, by simp, rfl⟩, fun x hx houtranks => ?_⟩
      obtain hx | hx := List.mem_append.mp hx
      · obtain ⟨leader, hleader, rfl | hover⟩ := exists_leads hdisjoint hx
        · exact hnone _ hleader houtranks
        · exact hnone leader hleader (hover.trans hdisjoint houtranks)
      · obtain rfl := List.mem_singleton.mp hx
        exact not_outranks_self chains _ houtranks
    · refine ⟨⟨own, List.mem_append_left _ hown, rfl⟩, fun x hx => ?_⟩
      obtain hx | hx := List.mem_append.mp hx
      · exact hbefore x hx
      · obtain rfl := List.mem_singleton.mp hx
        exact hlast

/-! ## Entries of seeds -/

/-- What a seed is entered as after other entries. A seed with a key is entered under it, trimmed, with its value
trimmed. One without is unnamed and keeps its value as it is, and its key is the numeral of the least positive number
that no leading key denotes. -/
structure EnteredAs (chains : List (List Text)) (entries : List Param) (seed : Seed) (e : Param) : Prop where
  source_eq : e.source = seed.source
  superseded_eq : e.superseded = []
  named : Text.trim (seed.key.getD []) ≠ [] →
    e.unnamed = false ∧ e.key = Text.trim (seed.key.getD []) ∧ e.value = Text.trim seed.value
  unnamed : Text.trim (seed.key.getD []) = [] →
    e.unnamed = true ∧ e.value = seed.value ∧
      ∃ n, e.key = Text.ofNat n ∧ IsLeast (FreeNumbers (Leads chains entries)) n

/-- The number for an unnamed parameter is the least that is free among the live keys, however these are given. -/
theorem isLeast_leastFree_of_isLive_iff {t : ParamTable} {taken : Text → Prop}
    (h : ∀ key, t.isLive key = true ↔ taken key) : IsLeast (FreeNumbers taken) t.leastFree := by
  have htaken : taken = (· ∈ Keyed.keys t.live) := by
    funext key
    rw [eq_iff_iff, ← h, isLive_iff_mem_keys]
  rw [htaken]
  exact t.isLeast_leastFree

/-- The entries of seeds, one after another. -/
inductive Entered (chains : List (List Text)) : List Seed → List Param → Prop where
  | nil : Entered chains [] []
  | snoc {seeds : List Seed} {entries : List Param} {seed : Seed} {e : Param} (h : Entered chains seeds entries)
      (he : EnteredAs chains entries seed e) : Entered chains (seeds ++ [seed]) (entries ++ [e])

theorem Entered.length_eq {chains : List (List Text)} {seeds : List Seed} {entries : List Param}
    (h : Entered chains seeds entries) : seeds.length = entries.length := by
  induction h with
  | nil => rfl
  | snoc _ _ ih => simp [ih]

/-! ## Standing for a group -/

/-- Whether a parameter is the last entry under a key, with all other entries under keys akin to it on record. -/
def StandsFor (chains : List (List Text)) (entries : List Param) (key : Text) (p : Param) : Prop :=
  ∃ before e behind, entries = before ++ e :: behind ∧ e.key = key ∧ (∀ later ∈ behind, later.key ≠ key) ∧
    p = { e with superseded := p.superseded } ∧
    p.superseded.Perm (((before ++ behind).filter fun other => Akin chains other.key key).map Param.asSuperseded)

/-- The entries of a group are on record, but for one, which is the parameter. -/
theorem StandsFor.perm_asSuperseded {chains : List (List Text)} {entries : List Param} {key : Text} {p : Param}
    (h : StandsFor chains entries key p) :
    (p.superseded ++ [p.asSuperseded]).Perm
      ((entries.filter fun other => Akin chains other.key key).map Param.asSuperseded) := by
  obtain ⟨before, e, behind, rfl, rfl, -, hp, hperm⟩ := h
  have hown : p.asSuperseded = e.asSuperseded := by rw [hp, Param.asSuperseded, Param.asSuperseded]
  have hakin : Akin chains e.key e.key := akin_refl chains e.key
  rw [hown, List.filter_append, List.filter_cons_of_pos (by simpa using hakin), List.map_append, List.map_cons]
  rw [List.filter_append, List.map_append] at hperm
  exact (List.perm_append_comm.trans (hperm.cons _)).trans List.perm_middle.symm

/-- One more entry under a key that is not akin makes no difference. -/
theorem StandsFor.append_singleton {chains : List (List Text)} {entries : List Param} {key : Text} {p : Param}
    (h : StandsFor chains entries key p) {e : Param} (hakin : ¬ Akin chains e.key key) :
    StandsFor chains (entries ++ [e]) key p := by
  obtain ⟨before, own, behind, rfl, hkey, hlast, hp, hperm⟩ := h
  refine ⟨before, own, behind ++ [e], by simp, hkey, ?_, hp, ?_⟩
  · intro later hlater
    obtain hlater | hlater := List.mem_append.mp hlater
    · exact hlast later hlater
    · obtain rfl := List.mem_singleton.mp hlater
      exact fun heq => hakin (Or.inl heq)
  · rw [← List.append_assoc, List.filter_append, List.filter_cons_of_neg (by simpa using hakin)]
    simpa using hperm

/-- One more entry under another key that is akin goes on record. -/
theorem StandsFor.append_akin {chains : List (List Text)} {entries : List Param} {key : Text} {p : Param}
    (h : StandsFor chains entries key p) {e : Param} (hakin : Akin chains e.key key) (hne : e.key ≠ key) :
    StandsFor chains (entries ++ [e]) key { p with superseded := p.superseded ++ [e.asSuperseded] } := by
  obtain ⟨before, own, behind, rfl, hkey, hlast, hp, hperm⟩ := h
  refine ⟨before, own, behind ++ [e], by simp, hkey, ?_, ?_, ?_⟩
  · intro later hlater
    obtain hlater | hlater := List.mem_append.mp hlater
    · exact hlast later hlater
    · obtain rfl := List.mem_singleton.mp hlater
      exact hne
  · rw [hp]
  · rw [← List.append_assoc, List.filter_append, List.filter_cons_of_pos (by simpa using hakin), List.map_append]
    exact hperm.append_right _

/-- The last entry stands for its group, if the entries of the group before it are on record. -/
theorem standsFor_append_singleton {chains : List (List Text)} {entries : List Param} {e : Param}
    {records : List Superseded}
    (hrecords : records.Perm ((entries.filter fun other => Akin chains other.key e.key).map Param.asSuperseded)) :
    StandsFor chains (entries ++ [e]) e.key { e with superseded := records } :=
  ⟨entries, e, [], rfl, rfl, by simp, rfl, by simpa using hrecords⟩

end PageMarkup.ParamTable
