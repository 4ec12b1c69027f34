import Mathlib.Algebra.BigOperators.Group.List.Basic
import Mathlib.Data.List.Dedup
import PageMarkup.Proofs.Param.Consistent
import PageMarkup.Proofs.Param.Leading

/-!
# Tables of seeds

A table that is made of seeds holds what the seeds amount to: the leading keys, each with the last entry under it and
the other entries of its group on record, in the order in which these entries came (`ParamTable.Summarizes`). One seed
more does one of three things to a table, and each of them is what one entry more does to the summary
(`Summarizes.addSeed`). So no seed is lost, and none is held twice (`ParamTable.summarizes_ofValues`).
-/
namespace PageMarkup

/-- The registration of a seed. -/
def Seed.toRegistration (seed : Seed) : Registration :=
  { key := seed.key.getD [], value := seed.value, initial := true, source := seed.source }

/-- The last occurrence of an element is the one that is kept. -/
theorem dedup_append_singleton {α : Type} [DecidableEq α] (xs : List α) (a : α) :
    (xs ++ [a]).dedup = (xs.dedup.filter fun x => !decide (x = a)) ++ [a] := by
  induction xs with
  | nil => rfl
  | cons x xs ih =>
    by_cases hmem : x ∈ xs
    · rw [List.cons_append, List.dedup_cons_of_mem (by simp [hmem]), List.dedup_cons_of_mem hmem, ih]
    · rw [List.cons_append, List.dedup_cons_of_notMem hmem]
      by_cases heq : x = a
      · rw [List.dedup_cons_of_mem (by simp [heq]), ih, List.filter_cons_of_neg (by simp [heq])]
      · rw [List.dedup_cons_of_notMem (by simp [hmem, heq]), ih, List.filter_cons_of_pos (by simp [heq]),
          List.cons_append]

namespace ParamTable

/-! ## One seed more -/

theorem addSeed_eq (t : ParamTable) (seed : Seed) : t.addSeed seed = (t.register seed.toRegistration).2 := rfl

/-- A seed is added beside keys that are not akin to its own, takes the place of what is under its key or under one of
lower priority, or goes on record beside a key of higher priority. -/
theorem addSeed_cases {t : ParamTable} (hdisjoint : t.chains.Pairwise List.Disjoint) {seed : Seed} {p : Param}
    (hp : t.paramOf seed.toRegistration = p) :
    ((∀ key, t.isLive key = true → ¬ Akin t.chains p.key key) ∧ (t.addSeed seed).order = t.order ++ [p.key] ∧
      ∀ key, Keyed.get? key (t.addSeed seed).live = if p.key = key then some p else Keyed.get? key t.live) ∨
    (∃ former old, Keyed.get? former t.live = some old ∧ (former = p.key ∨ Outranks t.chains p.key former) ∧
      (t.addSeed seed).order = t.order.erase former ++ [p.key] ∧
      ∀ key, Keyed.get? key (t.addSeed seed).live =
        if p.key = key then some { p with superseded := old.superseded ++ [old.asSuperseded] }
        else if former = key then none else Keyed.get? key t.live) ∨
    ∃ winner old, Keyed.get? winner t.live = some old ∧ Outranks t.chains winner p.key ∧
      (t.addSeed seed).order = t.order ∧
      ∀ key, Keyed.get? key (t.addSeed seed).live =
        if winner = key then some { old with superseded := old.superseded ++ [p.asSuperseded] }
        else Keyed.get? key t.live := by
  rw [addSeed_eq]
  obtain ⟨hrefuses, -⟩ | ⟨hover, hnew, h⟩ | ⟨old, hover, hold, h⟩ | ⟨winner, hover, h⟩ | ⟨loser, hover, h⟩ :=
    t.register_cases seed.toRegistration
  · simp [Refuses, Seed.toRegistration] at hrefuses
  · rw [hp] at hover hnew h
    refine Or.inl ⟨fun key hlive hakin => ?_, ?_, fun key => ?_⟩
    · have hne : key ≠ p.key := by
        rintro rfl
        simp [isLive, Keyed.has, hnew] at hlive
      obtain heq | ⟨chain, hchain, hkey, hother⟩ := hakin
      · exact hne heq.symm
      · have hdeciding := (decidingChain?_eq_some_iff hdisjoint).mpr ⟨hchain, hkey⟩
        simp [override?_eq_none_iff.mp hover chain hdeciding key hother hne] at hlive
    · rw [h]
      rfl
    · rw [h]
      exact Keyed.get?_put _ _ _ _
  · rw [hp] at hover hold h
    refine Or.inr (Or.inl ⟨p.key, old, hold, Or.inl rfl, ?_, fun key => ?_⟩)
    · rw [h]
      rfl
    · rw [h]
      refine (Keyed.get?_put _ _ _ _).trans ?_
      split
      · rfl
      · rfl
  · rw [hp] at hover h
    obtain ⟨hlive, -, chain, hchain, hmem, hlt⟩ := override?_eq_overridden hover
    obtain ⟨old, hold⟩ := isLive_iff.mp hlive
    obtain ⟨hchainmem, hkey⟩ := mem_of_decidingChain? hchain
    have houtranks : Outranks t.chains winner p.key :=
      ⟨chain, (decidingChain?_eq_some_iff hdisjoint).mpr ⟨hchainmem, hmem⟩, hkey, hlt⟩
    refine Or.inr (Or.inr ⟨winner, old, hold, houtranks, ?_, fun key => ?_⟩)
    · rw [h]
      simp only [recordBeside, hold]
    · rw [h]
      simp only [recordBeside, hold]
      exact Keyed.get?_put _ _ _ _
  · rw [hp] at hover h
    obtain ⟨hlive, -, houtranks⟩ := override?_eq_overrides hover
    obtain ⟨old, hold⟩ := isLive_iff.mp hlive
    refine Or.inr (Or.inl ⟨loser, old, hold, Or.inr houtranks, ?_, fun key => ?_⟩)
    · rw [h, List.erase_eq_eraseIdx_of_idxOf rfl]
      rfl
    · rw [h]
      simp only [evict, hold, addSuperseded, Seed.toRegistration]
      rw [Keyed.get?_put, Keyed.get?_erase]
      rfl

@[simp] theorem chains_addSeed (t : ParamTable) (seed : Seed) : (t.addSeed seed).chains = t.chains :=
  chains_register t _

/-! ## Summaries -/

/-- Whether a table holds what entries amount to: the live keys are the leading ones, in the order of the last entries
under them, and each parameter stands for its group. -/
structure Summarizes (t : ParamTable) (entries : List Param) : Prop where
  live_iff : ∀ key, t.isLive key = true ↔ Leads t.chains entries key
  order_eq : t.order = (entries.map Param.key).dedup.filter t.isLive
  standsFor : ∀ key p, Keyed.get? key t.live = some p → StandsFor t.chains entries key p

theorem summarizes_empty (chains : List (List Text)) : (empty chains).Summarizes [] where
  live_iff key := by simp [Leads]
  order_eq := rfl
  standsFor key p h := by simp [empty, Keyed.get?] at h

section

variable {t u : ParamTable} {entries : List Param} {p : Param}

/-- The order with one entry more, if the live keys other than that of the entry were live before. -/
theorem Summarizes.order_append_singleton (hes : t.Summarizes entries)
    (hkept : ∀ key, key ≠ p.key → u.isLive key = true → t.isLive key = true) :
    ((entries ++ [p]).map Param.key).dedup.filter u.isLive =
      (t.order.filter fun key => u.isLive key && !decide (key = p.key)) ++ [p.key].filter u.isLive := by
  rw [hes.order_eq, List.map_append, List.map_singleton, dedup_append_singleton, List.filter_append,
    List.filter_filter, List.filter_filter]
  congr 1
  refine List.filter_congr fun key _ => ?_
  by_cases hkey : key = p.key
  · simp [hkey]
  · cases hlive : u.isLive key with
    | false => simp
    | true => simp [hkey, hkept key hkey hlive]

/-- A parameter under a key of its own, akin to no live one. -/
theorem Summarizes.of_apart (hdisjoint : t.chains.Pairwise List.Disjoint) (ht : t.Consistent)
    (hes : t.Summarizes entries) (hsuperseded : p.superseded = [])
    (hapart : ∀ key, t.isLive key = true → ¬ Akin t.chains p.key key) (hchains : u.chains = t.chains)
    (horder : u.order = t.order ++ [p.key])
    (hget : ∀ key, Keyed.get? key u.live = if p.key = key then some p else Keyed.get? key t.live) :
    u.Summarizes (entries ++ [p]) := by
  have hlive : ∀ key, u.isLive key = true ↔ key = p.key ∨ t.isLive key = true := fun key =>
    isLive_iff_of_get? (hget key)
  have hleads : ∀ key, Leads t.chains entries key → ¬ Akin t.chains p.key key := fun key hkey =>
    hapart key ((hes.live_iff key).mpr hkey)
  constructor
  case live_iff =>
    intro key
    rw [hchains, leads_append_singleton hdisjoint, hlive, hes.live_iff]
    have hbelow : ∀ other, Leads t.chains entries other → ¬ Outranks t.chains other p.key :=
      fun other hother h => hleads other hother h.akin.symm
    have habove : Leads t.chains entries key → ¬ Outranks t.chains p.key key := fun hkey h => hleads key hkey h.akin
    tauto
  case order_eq =>
    have hkept : ∀ key, key ≠ p.key → u.isLive key = true → t.isLive key = true := fun key hne h =>
      ((hlive key).mp h).resolve_left hne
    have hown : u.isLive p.key = true := (hlive p.key).mpr (Or.inl rfl)
    rw [hes.order_append_singleton hkept, horder, List.filter_cons_of_pos hown, List.filter_nil]
    congr 1
    refine (List.filter_eq_self.mpr fun key hkey => ?_).symm
    have hkeylive : t.isLive key = true := (ht.ordered.mem_iff key).mp hkey
    have hne : key ≠ p.key := by
      rintro rfl
      exact hapart _ hkeylive (akin_refl _ _)
    simp [hne, (hlive key).mpr (Or.inr hkeylive)]
  case standsFor =>
    intro key q hq
    rw [hget] at hq
    rw [hchains]
    split at hq
    · rename_i hkey
      obtain rfl := hkey
      obtain rfl := Option.some.inj hq
      -- No entry is akin to the new one: one that leads would be.
      have hnone : (entries.filter fun other => Akin t.chains other.key p.key) = [] := by
        rw [List.filter_eq_nil_iff]
        intro other hother hakin
        obtain ⟨leader, hleader, hover⟩ := exists_leads hdisjoint hother
        have hotherakin : Akin t.chains leader other.key := hover.elim Or.inl Outranks.akin
        exact hleads leader hleader (hotherakin.trans hdisjoint (of_decide_eq_true hakin)).symm
      have hrecords : p.superseded.Perm
          ((entries.filter fun other => Akin t.chains other.key p.key).map Param.asSuperseded) := by
        rw [hsuperseded, hnone]
        exact List.Perm.refl _
      exact standsFor_append_singleton hrecords
    · exact (hes.standsFor key q hq).append_singleton (hapart key (isLive_iff.mpr ⟨q, hq⟩))

/-- A parameter in place of one under its own key or one of lower priority, which goes on record. -/
theorem Summarizes.of_former (hdisjoint : t.chains.Pairwise List.Disjoint) (ht : t.Consistent)
    (hes : t.Summarizes entries) {former : Text} {old : Param} (hold : Keyed.get? former t.live = some old)
    (hformer : former = p.key ∨ Outranks t.chains p.key former) (hchains : u.chains = t.chains)
    (horder : u.order = t.order.erase former ++ [p.key])
    (hget : ∀ key, Keyed.get? key u.live =
      if p.key = key then some { p with superseded := old.superseded ++ [old.asSuperseded] }
      else if former = key then none else Keyed.get? key t.live) :
    u.Summarizes (entries ++ [p]) := by
  have hlive : ∀ key, u.isLive key = true ↔ key = p.key ∨ (key ≠ former ∧ t.isLive key = true) := by
    intro key
    rw [isLive, Keyed.has, hget key]
    by_cases hkey : p.key = key
    · simp [hkey]
    · by_cases hother : former = key
      · simp [hkey, Ne.symm hkey, hother]
      · simp [hkey, Ne.symm hkey, hother, Ne.symm hother, isLive, Keyed.has]
  have hformerlive : t.isLive former = true := isLive_iff.mpr ⟨old, hold⟩
  -- The new key and the former one are of one group, of which nothing else was live.
  have hakin : Akin t.chains p.key former := hformer.elim (fun heq => Or.inl heq.symm) Outranks.akin
  have halone : ∀ key, t.isLive key = true → Akin t.chains p.key key → key = former := fun key hkey h =>
    ht.alone key former hkey hformerlive (h.symm.trans hdisjoint hakin)
  constructor
  case live_iff =>
    intro key
    rw [hchains, leads_append_singleton hdisjoint, hlive, ← hes.live_iff]
    have hbelow : ∀ other, Leads t.chains entries other → ¬ Outranks t.chains other p.key := by
      intro other hother h
      obtain rfl := halone other ((hes.live_iff other).mpr hother) h.akin.symm
      obtain rfl | hover := hformer
      · exact not_outranks_self _ _ h
      · exact hover.asymm hdisjoint h
    have habove : key ≠ former → t.isLive key = true → ¬ Outranks t.chains p.key key := fun hne hkey h =>
      hne (halone key hkey h.akin)
    have hgone : key = former → ¬ Outranks t.chains p.key key → key = p.key := by
      rintro rfl h
      exact hformer.resolve_right h
    tauto
  case order_eq =>
    have hkept : ∀ key, key ≠ p.key → u.isLive key = true → t.isLive key = true := fun key hne h =>
      (((hlive key).mp h).resolve_left hne).2
    have hown : u.isLive p.key = true := (hlive p.key).mpr (Or.inl rfl)
    rw [hes.order_append_singleton hkept, horder, List.filter_cons_of_pos hown, List.filter_nil,
      ht.ordered.nodup.erase_eq_filter]
    congr 1
    refine List.filter_congr fun key hkey => ?_
    have hkeylive : t.isLive key = true := (ht.ordered.mem_iff key).mp hkey
    rw [Bool.eq_iff_iff, Bool.and_eq_true, hlive, bne_iff_ne, Bool.not_eq_true', decide_eq_false_iff_not]
    have hne : key ≠ former → key ≠ p.key := by
      rintro hne rfl
      exact hne (halone _ hkeylive (akin_refl _ _))
    tauto
  case standsFor =>
    intro key q hq
    rw [hget] at hq
    rw [hchains]
    split at hq
    · rename_i hkey
      obtain rfl := hkey
      obtain rfl := Option.some.inj hq
      have hsame : (entries.filter fun other => Akin t.chains other.key former) =
          entries.filter fun other => Akin t.chains other.key p.key := by
        refine List.filter_congr fun other _ => ?_
        rw [decide_eq_decide]
        exact ⟨fun h => h.trans hdisjoint hakin.symm, fun h => h.trans hdisjoint hakin⟩
      have hrecords := (hes.standsFor former old hold).perm_asSuperseded
      rw [hsame] at hrecords
      exact standsFor_append_singleton hrecords
    · split at hq
      · simp at hq
      · rename_i hne
        refine (hes.standsFor key q hq).append_singleton fun h => hne ?_
        exact (halone key (isLive_iff.mpr ⟨q, hq⟩) h).symm

/-- A parameter on record beside a live key of higher priority. -/
theorem Summarizes.of_winner (hdisjoint : t.chains.Pairwise List.Disjoint) (ht : t.Consistent)
    (hes : t.Summarizes entries) {winner : Text} {old : Param} (hold : Keyed.get? winner t.live = some old)
    (houtranks : Outranks t.chains winner p.key) (hchains : u.chains = t.chains) (horder : u.order = t.order)
    (hget : ∀ key, Keyed.get? key u.live =
      if winner = key then some { old with superseded := old.superseded ++ [p.asSuperseded] }
      else Keyed.get? key t.live) :
    u.Summarizes (entries ++ [p]) := by
  have hwinner : t.isLive winner = true := isLive_iff.mpr ⟨old, hold⟩
  have hlive : ∀ key, u.isLive key = true ↔ t.isLive key = true := by
    intro key
    rw [isLive_iff_of_get? (hget key)]
    exact ⟨fun h => h.elim (fun heq => heq ▸ hwinner) id, Or.inr⟩
  have halone : ∀ key, t.isLive key = true → Akin t.chains p.key key → key = winner := fun key hkey h =>
    ht.alone key winner hkey hwinner ((h.symm).trans hdisjoint houtranks.akin.symm)
  have hdead : t.isLive p.key = false := by
    rw [Bool.eq_false_iff]
    intro h
    have heq : p.key = winner := halone p.key h (akin_refl _ _)
    exact not_outranks_self _ _ (heq ▸ houtranks)
  constructor
  case live_iff =>
    intro key
    rw [hchains, leads_append_singleton hdisjoint, hlive, ← hes.live_iff]
    have hbelow : ¬ ∀ other, Leads t.chains entries other → ¬ Outranks t.chains other p.key := fun h =>
      h winner ((hes.live_iff winner).mp hwinner) houtranks
    have habove : t.isLive key = true → ¬ Outranks t.chains p.key key := by
      intro hkey h
      obtain rfl := halone key hkey h.akin
      exact h.asymm hdisjoint houtranks
    tauto
  case order_eq =>
    have hkept : ∀ key, key ≠ p.key → u.isLive key = true → t.isLive key = true := fun key _ => (hlive key).mp
    have hown : ¬ u.isLive p.key = true := by
      rw [hlive, hdead]
      simp
    rw [hes.order_append_singleton hkept, horder, List.filter_cons_of_neg hown, List.filter_nil, List.append_nil]
    refine (List.filter_eq_self.mpr fun key hkey => ?_).symm
    have hkeylive : t.isLive key = true := (ht.ordered.mem_iff key).mp hkey
    have hne : key ≠ p.key := by
      rintro rfl
      simp [hkeylive] at hdead
    simp [hne, (hlive key).mpr hkeylive]
  case standsFor =>
    intro key q hq
    rw [hget] at hq
    rw [hchains]
    split at hq
    · rename_i hkey
      obtain rfl := hkey
      obtain rfl := Option.some.inj hq
      have hne : p.key ≠ winner := by
        intro heq
        exact not_outranks_self _ _ (heq ▸ houtranks)
      exact (hes.standsFor winner old hold).append_akin houtranks.akin.symm hne
    · rename_i hne
      refine (hes.standsFor key q hq).append_singleton fun h => hne ?_
      exact (halone key (isLive_iff.mpr ⟨q, hq⟩) h).symm

end

/-- A table with one seed more holds what the entries before and that of the seed amount to. -/
theorem Summarizes.addSeed {t : ParamTable} {entries : List Param} (hdisjoint : t.chains.Pairwise List.Disjoint)
    (ht : t.Consistent) (hes : t.Summarizes entries) (seed : Seed) :
    (t.addSeed seed).Summarizes (entries ++ [t.paramOf seed.toRegistration]) := by
  have hchains := chains_addSeed t seed
  obtain ⟨hapart, horder, hget⟩ | ⟨former, old, hold, hformer, horder, hget⟩ |
    ⟨winner, old, hold, houtranks, horder, hget⟩ := addSeed_cases hdisjoint (rfl : t.paramOf seed.toRegistration = _)
  · exact hes.of_apart hdisjoint ht (superseded_paramOf t _) hapart hchains horder hget
  · exact hes.of_former hdisjoint ht hold hformer hchains horder hget
  · exact hes.of_winner hdisjoint ht hold houtranks hchains horder hget

/-- A seed is entered as what is registered for it. -/
theorem Summarizes.enteredAs_iff {t : ParamTable} {entries : List Param} (hes : t.Summarizes entries) {seed : Seed}
    {e : Param} : EnteredAs t.chains entries seed e ↔ e = t.paramOf seed.toRegistration := by
  have hleast : IsLeast (FreeNumbers (Leads t.chains entries)) t.leastFree :=
    isLeast_leastFree_of_isLive_iff hes.live_iff
  by_cases hblank : Text.trim seed.toRegistration.key = []
  · rw [paramOf_of_blank hblank]
    constructor
    · rintro ⟨hsource, hsuperseded, -, hunnamed⟩
      obtain ⟨hflag, hvalue, n, hkey, hn⟩ := hunnamed hblank
      have hnumber : n = t.leastFree := hn.unique hleast
      obtain ⟨key, value, unnamed, superseded, source⟩ := e
      simp only at hsource hsuperseded hflag hvalue hkey
      rw [hsource, hsuperseded, hflag, hvalue, hkey, hnumber]
      rfl
    · rintro rfl
      exact ⟨rfl, rfl, fun h => absurd hblank h, fun _ => ⟨rfl, rfl, t.leastFree, rfl, hleast⟩⟩
  · rw [paramOf_of_named hblank]
    constructor
    · rintro ⟨hsource, hsuperseded, hnamed, -⟩
      obtain ⟨hflag, hkey, hvalue⟩ := hnamed hblank
      obtain ⟨key, value, unnamed, superseded, source⟩ := e
      simp only at hsource hsuperseded hflag hvalue hkey
      rw [hsource, hsuperseded, hflag, hvalue, hkey]
      rfl
    · rintro rfl
      exact ⟨rfl, rfl, fun _ => ⟨rfl, rfl, rfl⟩, fun h => absurd h hblank⟩

/-! ## All seeds -/

theorem ofSeeds_append_singleton (seeds : List Seed) (seed : Seed) (chains : List (List Text)) :
    ofSeeds (seeds ++ [seed]) chains = (ofSeeds seeds chains).addSeed seed := by
  simp [ofSeeds]

theorem reached_ofSeeds (seeds : List Seed) (chains : List (List Text)) : Reached chains (ofSeeds seeds chains) := by
  induction seeds using List.reverseRecOn with
  | nil => exact Reached.empty
  | append_singleton seeds seed ih =>
    rw [ofSeeds_append_singleton]
    exact ih.addSeed seed

/-- The table of seeds holds what their entries amount to. -/
theorem Entered.summarizes {chains : List (List Text)} (hdisjoint : chains.Pairwise List.Disjoint)
    {seeds : List Seed} {entries : List Param} (h : Entered chains seeds entries) :
    (ofSeeds seeds chains).Summarizes entries := by
  induction h with
  | nil => exact summarizes_empty chains
  | @snoc seeds entries seed e _ he ih =>
    have hreached := reached_ofSeeds seeds chains
    rw [← hreached.chains_eq] at he
    rw [ofSeeds_append_singleton, ih.enteredAs_iff.mp he]
    exact ih.addSeed (hreached.chains_eq.symm ▸ hdisjoint) (hreached.consistent hdisjoint) seed

theorem exists_entered {chains : List (List Text)} (hdisjoint : chains.Pairwise List.Disjoint) (seeds : List Seed) :
    ∃ entries, Entered chains seeds entries := by
  induction seeds using List.reverseRecOn with
  | nil => exact ⟨[], Entered.nil⟩
  | append_singleton seeds seed ih =>
    obtain ⟨entries, hentries⟩ := ih
    have he : EnteredAs (ofSeeds seeds chains).chains entries seed
        ((ofSeeds seeds chains).paramOf seed.toRegistration) :=
      (hentries.summarizes hdisjoint).enteredAs_iff.mpr rfl
    rw [(reached_ofSeeds seeds chains).chains_eq] at he
    exact ⟨_, hentries.snoc he⟩

/-! ## Nothing is lost -/

/-- Every entry has one live key in its group. -/
theorem Summarizes.existsUnique_akin {t : ParamTable} {entries : List Param}
    (hdisjoint : t.chains.Pairwise List.Disjoint) (ht : t.Consistent) (hes : t.Summarizes entries) {e : Param}
    (he : e ∈ entries) : ∃! key, t.isLive key = true ∧ Akin t.chains e.key key := by
  obtain ⟨leader, hleader, hover⟩ := exists_leads hdisjoint he
  have hlive : t.isLive leader = true := (hes.live_iff leader).mpr hleader
  have hakin : Akin t.chains e.key leader := hover.elim (fun heq => Or.inl heq.symm) fun h => h.akin.symm
  refine ⟨leader, ⟨hlive, hakin⟩, fun key ⟨hkey, hkeyakin⟩ => ?_⟩
  exact ht.alone key leader hkey hlive (hkeyakin.symm.trans hdisjoint hakin)

/-- If each of some things belongs to one of others, the shares of the others add up to all of them. -/
theorem sum_countP_eq_length {α β : Type} (belongs : α → β → Bool) (xs : List α) (ys : List β)
    (h : ∀ x ∈ xs, ys.countP (belongs x) = 1) :
    (ys.map fun y => xs.countP fun x => belongs x y).sum = xs.length := by
  induction xs with
  | nil => simp
  | cons x xs ih =>
    have hone : ∀ zs : List β, (zs.map fun y => if belongs x y then 1 else 0).sum = zs.countP (belongs x) := by
      intro zs
      induction zs with
      | nil => rfl
      | cons z zs ih =>
        rw [List.map_cons, List.sum_cons, ih, List.countP_cons]
        omega
    simp only [List.countP_cons, List.sum_map_add]
    rw [ih fun z hz => h z (List.mem_cons_of_mem x hz), hone, h x List.mem_cons_self, List.length_cons]

/-- There are as many entries as live parameters and values on record. -/
theorem Summarizes.length_eq {t : ParamTable} {entries : List Param} (hdisjoint : t.chains.Pairwise List.Disjoint)
    (ht : t.Consistent) (hkeys : t.DistinctKeys) (hes : t.Summarizes entries) :
    entries.length = (t.live.map fun entry => 1 + entry.2.superseded.length).sum := by
  have hone : ∀ e ∈ entries, (Keyed.keys t.live).countP (fun key => Akin t.chains e.key key) = 1 := by
    intro e he
    obtain ⟨leader, ⟨hleader, hakin⟩, hunique⟩ := hes.existsUnique_akin hdisjoint ht he
    have hcount : (Keyed.keys t.live).countP (fun key => Akin t.chains e.key key) =
        (Keyed.keys t.live).count leader := by
      refine List.countP_congr fun key hkey => ?_
      have hlive : t.isLive key = true := isLive_iff_mem_keys.mpr hkey
      rw [decide_eq_true_iff, beq_iff_eq]
      constructor
      · exact fun h => hunique key ⟨hlive, h⟩
      · rintro rfl
        exact hakin
    rw [hcount, List.count_eq_one_of_mem hkeys (isLive_iff_mem_keys.mp hleader)]
  rw [← sum_countP_eq_length (fun e key => decide (Akin t.chains e.key key)) entries (Keyed.keys t.live) hone,
    Keyed.keys, List.map_map]
  congr 1
  refine List.map_congr_left fun entry hentry => ?_
  have hperm := (hes.standsFor _ _ (Keyed.get?_of_mem hkeys hentry)).perm_asSuperseded
  have hlength := hperm.length_eq
  rw [List.length_append, List.length_singleton, List.length_map] at hlength
  rw [Function.comp_apply, List.countP_eq_length_filter, ← hlength]
  omega

/-! ## Seeds in the form of values -/

/-- The seeds that a value stands for. -/
def readSeeds (seeds : Value) : Except Fault (List Seed) := do
  (← seeds.expectItems).mapM fun v => do (← SeedValue.ofValue v).toSeed

/-- Whether a seed has a key, or no live key is too long a numeral for a free number to be looked for. -/
def Enterable (t : ParamTable) (seed : Seed) : Prop :=
  Text.trim (seed.key.getD []) = [] → ∀ key, t.isLive key = true → isOverlongKey key = false

theorem exists_expectFreeKey_eq_ok_iff {t : ParamTable} :
    (∃ key, t.expectFreeKey = .ok key) ↔ ∀ key, t.isLive key = true → isOverlongKey key = false := by
  unfold expectFreeKey
  cases hfind : t.live.find? fun entry => isOverlongKey entry.1 with
  | some entry =>
    have hlive : t.isLive entry.1 = true := isLive_of_mem (List.mem_of_find?_eq_some hfind)
    have hoverlong := List.find?_some hfind
    constructor
    · rintro ⟨key, hkey⟩
      simp at hkey
    · intro h
      simp [h entry.1 hlive] at hoverlong
  | none =>
    refine ⟨fun _ key hkey => ?_, fun _ => ⟨_, rfl⟩⟩
    obtain ⟨entry, hentry, rfl⟩ := List.mem_map.mp (isLive_iff_mem_keys.mp hkey)
    simpa using List.find?_eq_none.mp hfind entry hentry

theorem enterSeed_eq_ok_iff {t u : ParamTable} {v : SeedValue} {seed : Seed} (h : v.toSeed = .ok seed) :
    t.enterSeed v = .ok u ↔ t.Enterable seed ∧ u = t.addSeed seed := by
  have henter : t.enterSeed v =
      if (Text.trim (seed.key.getD [])).isEmpty then (do discard t.expectFreeKey; return t.addSeed seed)
      else .ok (t.addSeed seed) := by
    unfold enterSeed
    rw [h]
    rfl
  rw [henter]
  by_cases hblank : Text.trim (seed.key.getD []) = []
  · rw [if_pos (by simp [hblank]), Outcome.bind_eq_ok]
    have hfree : (∃ a, discard t.expectFreeKey = .ok a) ↔ t.Enterable seed := by
      rw [Enterable, ← exists_expectFreeKey_eq_ok_iff]
      constructor
      · rintro ⟨a, ha⟩ -
        obtain ⟨key, hkey, -⟩ := Outcome.map_eq_ok.mp ha
        exact ⟨key, hkey⟩
      · intro hkey
        obtain ⟨key, hkey⟩ := hkey hblank
        exact ⟨(), Outcome.map_eq_ok.mpr ⟨key, hkey, rfl⟩⟩
    rw [← hfree]
    constructor
    · rintro ⟨a, ha, hu⟩
      exact ⟨⟨a, ha⟩, (Except.ok.inj hu).symm⟩
    · rintro ⟨⟨a, ha⟩, rfl⟩
      exact ⟨a, ha, rfl⟩
  · rw [if_neg (by simp [hblank])]
    have hfree : t.Enterable seed := fun h => absurd h hblank
    exact ⟨fun hu => ⟨hfree, (Except.ok.inj hu).symm⟩, fun ⟨_, hu⟩ => congrArg Except.ok hu.symm⟩

/-- Seeds that are read and entered one after another yield a table if each of them can be entered into the table of
those before. -/
theorem foldlM_eq_ok_iff {α : Type} {read : α → Except Fault Seed} {step : ParamTable → α → Except Fault ParamTable}
    (hstep : ∀ t a seed u, read a = .ok seed → (step t a = .ok u ↔ t.Enterable seed ∧ u = t.addSeed seed))
    {items : List α} {seeds : List Seed} (hread : items.mapM read = .ok seeds) {t u : ParamTable} :
    items.foldlM step t = .ok u ↔
      (∀ before seed behind, seeds = before ++ seed :: behind → (before.foldl addSeed t).Enterable seed) ∧
        u = seeds.foldl addSeed t := by
  have hall := Outcome.mapM_eq_ok.mp hread
  clear hread
  -- The table is that of the seeds before, so the split at the first seed is its own condition.
  induction hall generalizing t with
  | nil =>
    constructor
    · intro h
      exact ⟨fun before seed behind hsplit => by simp at hsplit, (Except.ok.inj h).symm⟩
    · rintro ⟨-, rfl⟩
      rfl
  | @cons a first items rest hfirst _ ih =>
    rw [List.foldlM_cons, Outcome.bind_eq_ok]
    constructor
    · rintro ⟨next, hnext, hu⟩
      obtain ⟨hfree, rfl⟩ := (hstep t a first next hfirst).mp hnext
      obtain ⟨hrest, hu⟩ := ih.mp hu
      refine ⟨fun before seed behind hsplit => ?_, hu⟩
      cases before with
      | nil =>
        obtain ⟨rfl, -⟩ := List.cons.inj hsplit
        exact hfree
      | cons b before =>
        obtain ⟨rfl, htail⟩ := List.cons.inj hsplit
        exact hrest before seed behind htail
    · rintro ⟨hfree, hu⟩
      refine ⟨t.addSeed first, (hstep t a first _ hfirst).mpr ⟨hfree [] first rest rfl, rfl⟩, ih.mpr ⟨?_, hu⟩⟩
      intro before seed behind hsplit
      exact hfree (first :: before) seed behind (by rw [hsplit, List.cons_append])

/-- A table is made of seeds in the form of values if each of them can be entered into the table of those before. -/
theorem ofValues_eq_ok_iff {values hierarchies : Value} {seeds : List Seed} {chains : List (List Text)}
    (hseeds : readSeeds values = .ok seeds) (hchains : readChains hierarchies = .ok chains) {t : ParamTable} :
    ofValues values hierarchies = .ok t ↔
      (∀ before seed behind, seeds = before ++ seed :: behind → (ofSeeds before chains).Enterable seed) ∧
        t = ofSeeds seeds chains := by
  obtain ⟨items, hitems, hread⟩ := Outcome.bind_eq_ok.mp hseeds
  unfold ofValues
  rw [hchains, hitems]
  refine foldlM_eq_ok_iff (fun t v seed u hv => ?_) hread
  obtain ⟨value, hvalue, hseed⟩ := Outcome.bind_eq_ok.mp hv
  rw [hvalue]
  exact enterSeed_eq_ok_iff hseed

/-- A table is made of any seeds, unless an unnamed one meets a leading key that is too long a numeral. Then it holds
what the seeds amount to: the live keys are the leading ones, in the order of the last seeds under them, each with that
seed's value and the other seeds of its group on record. So every seed has one live key in its group, and the seeds are
as many as the live parameters and the values on record. -/
theorem summarizes_ofValues {values hierarchies : Value} {seeds : List Seed} {chains : List (List Text)}
    (hseeds : readSeeds values = .ok seeds) (hchains : readChains hierarchies = .ok chains)
    (hdisjoint : chains.Pairwise List.Disjoint) :
    ((∃ t, ofValues values hierarchies = .ok t) ↔
      ∀ before seed behind entries, seeds = before ++ seed :: behind → Entered chains before entries →
        Text.trim (seed.key.getD []) = [] → ∀ key, Leads chains entries key → isOverlongKey key = false) ∧
    (∃ entries, Entered chains seeds entries) ∧
    ∀ t entries, ofValues values hierarchies = .ok t → Entered chains seeds entries →
      t.chains = chains ∧ t.Summarizes entries ∧
        (∀ e ∈ entries, ∃! key, t.isLive key = true ∧ Akin chains e.key key) ∧
        seeds.length = (t.live.map fun entry => 1 + entry.2.superseded.length).sum := by
  have hlive : ∀ before entries key, Entered chains before entries →
      ((ofSeeds before chains).isLive key = true ↔ Leads chains entries key) := by
    intro before entries key hentered
    rw [(hentered.summarizes hdisjoint).live_iff, (reached_ofSeeds before chains).chains_eq]
  refine ⟨?_, exists_entered hdisjoint seeds, fun t entries ht hentered => ?_⟩
  · constructor
    · rintro ⟨t, ht⟩ before seed behind entries hsplit hentered hblank key hkey
      have hfree := ((ofValues_eq_ok_iff hseeds hchains).mp ht).1 before seed behind hsplit
      exact hfree hblank key ((hlive before entries key hentered).mpr hkey)
    · intro h
      refine ⟨_, (ofValues_eq_ok_iff hseeds hchains).mpr ⟨fun before seed behind hsplit hblank key hkey => ?_, rfl⟩⟩
      obtain ⟨entries, hentered⟩ := exists_entered hdisjoint before
      exact h before seed behind entries hsplit hentered hblank key ((hlive before entries key hentered).mp hkey)
  · obtain rfl := ((ofValues_eq_ok_iff hseeds hchains).mp ht).2
    have hreached := reached_ofSeeds seeds chains
    have hkept := hreached.chains_eq
    have hdisjoint' : (ofSeeds seeds chains).chains.Pairwise List.Disjoint := hkept.symm ▸ hdisjoint
    have hconsistent := hreached.consistent hdisjoint
    have hsummary := hentered.summarizes hdisjoint
    refine ⟨hkept, hsummary, fun e he => ?_, ?_⟩
    · have hunique := hsummary.existsUnique_akin hdisjoint' hconsistent he
      rwa [hkept] at hunique
    · rw [hentered.length_eq]
      exact hsummary.length_eq hdisjoint' hconsistent hreached.distinctKeys

theorem summarizes_ofValues_pairedSeeds :
    ∃ t seeds entries, ofValues pairedSeeds (chainsValue pairedChains) = .ok t ∧
      readSeeds pairedSeeds = .ok seeds ∧ Entered pairedChains seeds entries ∧ t.Summarizes entries ∧
      seeds.length = (t.live.map fun entry => 1 + entry.2.superseded.length).sum := by
  have hread : readChains (chainsValue pairedChains) = .ok pairedChains := rfl
  have hdisjoint : pairedChains.Pairwise List.Disjoint := by simp [pairedChains, List.Disjoint]
  obtain ⟨seeds, hseeds⟩ : ∃ seeds, readSeeds pairedSeeds = .ok seeds := ⟨_, rfl⟩
  obtain ⟨t, ht⟩ : ∃ t, ofValues pairedSeeds (chainsValue pairedChains) = .ok t := ⟨_, rfl⟩
  obtain ⟨-, ⟨entries, hentered⟩, hlaw⟩ := summarizes_ofValues hseeds hread hdisjoint
  obtain ⟨-, hsummary, -, hcount⟩ := hlaw t entries ht hentered
  exact ⟨t, seeds, entries, ht, hseeds, hentered, hsummary, hcount⟩

end ParamTable

end PageMarkup
