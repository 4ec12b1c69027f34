import PageMarkup.Proofs.Param.Insertions
import PageMarkup.Proofs.Param.Summary

/-!
# Insertions in any order

Texts that are inserted under different keys one after the other, into a table without parameters, give rise to the same
parameters as the seeds that have these keys and texts (`live_insertEach`). What the seeds amount to does not depend on
their order, but for the order of the parameters: which keys lead is a matter of which keys there are (`Leads.perm`), and
so are the value and the records under a leading key (`StandsFor.sameButOrder`).
-/
namespace PageMarkup

/-- Whether two parameters are the same, but for the order of their records and the texts that they were read from. -/
structure Param.SameButOrder (p q : Param) : Prop where
  key_eq : p.key = q.key
  value_eq : p.value = q.value
  unnamed_eq : p.unnamed = q.unnamed
  superseded_perm : p.superseded.Perm q.superseded

namespace ParamTable

/-- Whether two tables have the same live keys with the same parameters, but for the order of their records. -/
def SameButOrder (t u : ParamTable) : Prop :=
  ∀ key, Option.Rel Param.SameButOrder (Keyed.get? key t.live) (Keyed.get? key u.live)

/-- The table with texts inserted under keys one after the other. -/
def insertEach (t : ParamTable) (pairs : List (Text × Text)) : Except Fault ParamTable :=
  pairs.foldlM (fun t pair => Prod.snd <$> t.insert (.text pair.1) (.text pair.2)) t

/-! ## Entries in any order -/

section

variable {chains : List (List Text)} {entries others : List Param} {key : Text} {p q : Param}

theorem Leads.perm (hperm : entries.Perm others) (h : Leads chains entries key) : Leads chains others key := by
  obtain ⟨⟨e, he, hkey⟩, hnone⟩ := h
  exact ⟨⟨e, hperm.mem_iff.mp he, hkey⟩, fun other hother => hnone other (hperm.mem_iff.mpr hother)⟩

/-- What stands for a group depends on its entries, but not on their order if no two have the same key. -/
theorem StandsFor.sameButOrder (hdistinct : (entries.map Param.key).Nodup) (hperm : entries.Perm others)
    (hp : StandsFor chains entries key p) (hq : StandsFor chains others key q) : p.SameButOrder q := by
  have hrecords := hp.perm_asSuperseded.trans (((hperm.filter _).map _).trans hq.perm_asSuperseded.symm)
  obtain ⟨before, e, behind, rfl, rfl, -, hpe, -⟩ := hp
  obtain ⟨before', e', behind', rfl, hkey, -, hqe, -⟩ := hq
  have hmem : e' ∈ before ++ e :: behind := hperm.mem_iff.mpr (by simp)
  obtain rfl : e' = e := List.inj_on_of_nodup_map hdistinct hmem (by simp) hkey
  have hown : p.asSuperseded = q.asSuperseded := by rw [hpe, hqe, Param.asSuperseded, Param.asSuperseded]
  rw [hown, List.perm_append_right_iff] at hrecords
  exact ⟨by rw [hpe, hqe], by rw [hpe, hqe], by rw [hpe, hqe], hrecords⟩

/-- If no two entries have the same key, what is on record beside one is under the key of another one. -/
theorem StandsFor.key_of_mem (hdistinct : (entries.map Param.key).Nodup) (h : StandsFor chains entries key p)
    {d : Superseded} (hd : d ∈ p.superseded) : d.key ∈ entries.map Param.key ∧ d.key ≠ p.key := by
  obtain ⟨before, e, behind, rfl, -, -, hp, hperm⟩ := h
  obtain ⟨other, hother, rfl⟩ := List.mem_map.mp (hperm.mem_iff.mp hd)
  have hmem : other.key ∈ (before ++ behind).map Param.key := List.mem_map_of_mem (List.mem_of_mem_filter hother)
  have hown : p.key = e.key := by rw [hp]
  rw [List.map_append, List.map_cons] at hdistinct ⊢
  rw [List.map_append] at hmem
  constructor
  · exact List.perm_middle.mem_iff.mpr (List.mem_cons_of_mem _ hmem)
  · rw [hown]
    exact fun heq => (List.nodup_cons.mp (List.nodup_middle.mp hdistinct)).1 (heq ▸ hmem)

end

/-! ## Insertions and seeds -/

/-- The seed with a pair of key and text. -/
def pairSeed (pair : Text × Text) : Seed := { value := pair.2, key := some pair.1 }

/-- The entry of a pair of key and text. -/
def pairEntry (pair : Text × Text) : Param :=
  { key := Text.trim pair.1, value := Text.trim pair.2, unnamed := false }

theorem entered_pairs {chains : List (List Text)} {pairs : List (Text × Text)}
    (hnamed : ∀ pair ∈ pairs, Text.trim pair.1 ≠ []) :
    Entered chains (pairs.map pairSeed) (pairs.map pairEntry) := by
  induction pairs using List.reverseRecOn with
  | nil => exact Entered.nil
  | append_singleton pairs pair ih =>
    have hpair : Text.trim pair.1 ≠ [] := hnamed pair (by simp)
    rw [List.map_append, List.map_append]
    refine (ih fun other hother => hnamed other (List.mem_append_left _ hother)).snoc ?_
    exact ⟨rfl, rfl, fun _ => ⟨rfl, rfl, rfl⟩, fun h => absurd h hpair⟩

theorem addSuperseded_of_notMem {d : Superseded} {ds : List Superseded} (h : d ∉ ds) (repeatable : Bool) :
    addSuperseded d repeatable ds = ds ++ [d] := by
  simp [addSuperseded, h]

/-- A text that is inserted under a key of its own, which no entry before has had, leaves the parameters that the seed
with this key and text leaves: no record is there already, so it makes no difference that only seeds are recorded
twice. -/
theorem live_register_pair {t s : ParamTable} {entries : List Param} {pair : Text × Text} (hlive : t.live = s.live)
    (hchains : t.chains = s.chains) (hs : s.Summarizes entries)
    (hdistinct : ((entries ++ [pairEntry pair]).map Param.key).Nodup) (hnamed : Text.trim pair.1 ≠ []) :
    (t.register { key := pair.1, value := pair.2 }).2.live = (s.addSeed (pairSeed pair)).live := by
  have hp : t.paramOf { key := pair.1, value := pair.2 } = pairEntry pair := paramOf_of_named hnamed
  have hq : s.paramOf (pairSeed pair).toRegistration = pairEntry pair := paramOf_of_named hnamed
  have hkeys : (entries.map Param.key).Nodup ∧ (pairEntry pair).key ∉ entries.map Param.key := by
    rw [List.map_append, List.map_singleton, List.nodup_append] at hdistinct
    exact ⟨hdistinct.1, fun hmem => hdistinct.2.2 _ hmem _ (by simp) rfl⟩
  have hdead : s.isLive (pairEntry pair).key = false := by
    rw [Bool.eq_false_iff]
    intro h
    obtain ⟨⟨e, he, hkey⟩, -⟩ := (hs.live_iff _).mp h
    exact hkeys.2 (List.mem_map.mpr ⟨e, he, hkey⟩)
  have hover : t.override? (pairEntry pair).key = s.override? (pairEntry pair).key :=
    override?_congr (by rw [hlive]) hchains _
  have hrecord : ∀ key old, Keyed.get? key s.live = some old →
      (pairEntry pair).asSuperseded ∉ old.superseded ∧ old.asSuperseded ∉ old.superseded := by
    intro key old hold
    have hkey := fun d => (hs.standsFor key old hold).key_of_mem hkeys.1 (d := d)
    exact ⟨fun hmem => hkeys.2 (hkey _ hmem).1, fun hmem => (hkey _ hmem).2 rfl⟩
  rw [addSeed_eq]
  obtain ⟨hrefuses, -⟩ | ⟨hnone, hnew, hrun⟩ | ⟨old, -, hold, -⟩ | ⟨winner, hwinner, hrun⟩ | ⟨loser, hloser, hrun⟩ :=
    s.register_cases (pairSeed pair).toRegistration
  · simp [Refuses, Seed.toRegistration, pairSeed] at hrefuses
  · rw [hq] at hnone hnew hrun
    rw [hrun, register_eq_addNew rfl (by rw [hp, hover, hnone]) (by rw [hp, hlive, hnew]), hp]
    simp [addNew, hlive]
  · rw [hq] at hold
    simp [isLive, Keyed.has, hold] at hdead
  · rw [hq] at hwinner hrun
    obtain ⟨old, hold⟩ := isLive_iff.mp (override?_eq_overridden hwinner).1
    rw [hrun, register_eq_recordBeside rfl rfl (by rw [hp, hover, hwinner]), hp]
    simp [recordBeside, hlive, hold, addSuperseded_of_notMem (hrecord winner old hold).1]
  · rw [hq] at hloser hrun
    obtain ⟨old, hold⟩ := isLive_iff.mp (override?_eq_overrides hloser).1
    rw [hrun, register_eq_evict rfl rfl (by rw [hp, hover, hloser]), hp]
    simp [evict, hlive, hold, addSuperseded_of_notMem (hrecord loser old hold).2]

/-- Texts that are inserted under different keys into a table without parameters leave the parameters that the seeds
with these keys and texts leave. -/
theorem live_insertEach (chains : List (List Text)) (hdisjoint : chains.Pairwise List.Disjoint)
    {pairs : List (Text × Text)} (hnamed : ∀ pair ∈ pairs, Text.trim pair.1 ≠ [])
    (hdistinct : (pairs.map fun pair => Text.trim pair.1).Nodup) :
    ∃ t, (empty chains).insertEach pairs = .ok t ∧ t.chains = chains ∧
      t.live = (ofSeeds (pairs.map pairSeed) chains).live := by
  induction pairs using List.reverseRecOn with
  | nil => exact ⟨empty chains, rfl, rfl, rfl⟩
  | append_singleton pairs pair ih =>
    have hbefore : ∀ other ∈ pairs, Text.trim other.1 ≠ [] := fun other hother =>
      hnamed other (List.mem_append_left _ hother)
    have hkeys : ((pairs.map pairEntry ++ [pairEntry pair]).map Param.key).Nodup := by
      simpa [pairEntry, Function.comp_def] using hdistinct
    rw [List.map_append] at hdistinct
    obtain ⟨t, ht, hchains, hlive⟩ := ih hbefore hdistinct.of_append_left
    have hseeds := reached_ofSeeds (pairs.map pairSeed) chains
    have hnext := live_register_pair hlive (hchains.trans hseeds.chains_eq.symm)
      ((entered_pairs hbefore).summarizes hdisjoint) hkeys (hnamed pair (by simp))
    refine ⟨_, ?_, (chains_register t { key := pair.1, value := pair.2 }).trans hchains, ?_⟩
    · have hplace : Position.ofValue .null = .ok none := rfl
      have hinsert := insert_of_named (hnamed pair (by simp)) hplace t pair.2 true
      rw [insertEach, List.foldlM_append, ← insertEach, ht]
      refine Outcome.bind_eq_ok.mpr ⟨t, rfl, Outcome.bind_eq_ok.mpr ⟨_, ?_, rfl⟩⟩
      exact Outcome.map_eq_ok.mpr ⟨_, hinsert, rfl⟩
    · rw [hnext, List.map_append, List.map_singleton, ofSeeds_append_singleton]

/-- A table with the parameters of seeds holds what the entries of the pairs amount to. -/
theorem contents_of_pairs {chains : List (List Text)} (hdisjoint : chains.Pairwise List.Disjoint)
    {pairs : List (Text × Text)} (hnamed : ∀ pair ∈ pairs, Text.trim pair.1 ≠ []) {t : ParamTable}
    (hlive : t.live = (ofSeeds (pairs.map pairSeed) chains).live) :
    (∀ key, t.isLive key = true ↔ Leads chains (pairs.map pairEntry) key) ∧
      ∀ key p, Keyed.get? key t.live = some p → StandsFor chains (pairs.map pairEntry) key p := by
  have hsummary := (entered_pairs hnamed).summarizes hdisjoint
  have hkept := (reached_ofSeeds (pairs.map pairSeed) chains).chains_eq
  constructor
  · intro key
    have hsame : t.isLive key = (ofSeeds (pairs.map pairSeed) chains).isLive key := by rw [isLive, isLive, hlive]
    rw [hsame, hsummary.live_iff, hkept]
  · intro key p hp
    rw [hlive] at hp
    exact hkept ▸ hsummary.standsFor key p hp

/-- Texts that are inserted under different keys, one after the other, leave the same parameters whatever their order:
the live keys are those over which no other key among them has priority, each with its text, and all other texts under
keys of its group are on record. Only the order of the parameters and of the records may differ. -/
theorem sameButOrder_insertEach {hierarchies : Value} {chains : List (List Text)}
    (hchains : readChains hierarchies = .ok chains) (hdisjoint : chains.Pairwise List.Disjoint)
    {pairs others : List (Text × Text)} (hnamed : ∀ pair ∈ pairs, Text.trim pair.1 ≠ [])
    (hdistinct : (pairs.map fun pair => Text.trim pair.1).Nodup) (hperm : pairs.Perm others) :
    ∃ bare t u, ofValues (.list []) hierarchies = .ok bare ∧ bare.insertEach pairs = .ok t ∧
      bare.insertEach others = .ok u ∧ t.SameButOrder u ∧
      (∀ key, t.isLive key = true ↔ Leads chains (pairs.map pairEntry) key) ∧
      ∀ key p, Keyed.get? key t.live = some p → StandsFor chains (pairs.map pairEntry) key p := by
  have hnamed' : ∀ pair ∈ others, Text.trim pair.1 ≠ [] := fun pair hpair => hnamed pair (hperm.mem_iff.mpr hpair)
  have hdistinct' : (others.map fun pair => Text.trim pair.1).Nodup := (hperm.map _).nodup_iff.mp hdistinct
  obtain ⟨t, ht, -, hlive⟩ := live_insertEach chains hdisjoint hnamed hdistinct
  obtain ⟨u, hu, -, hlive'⟩ := live_insertEach chains hdisjoint hnamed' hdistinct'
  obtain ⟨hleads, hstands⟩ := contents_of_pairs hdisjoint hnamed hlive
  obtain ⟨hleads', hstands'⟩ := contents_of_pairs hdisjoint hnamed' hlive'
  have hbuilt : ofValues (.list []) hierarchies = .ok (empty chains) := Outcome.bind_eq_ok.mpr ⟨chains, hchains, rfl⟩
  have hentries : (pairs.map pairEntry).Perm (others.map pairEntry) := hperm.map _
  have hkeys : ((pairs.map pairEntry).map Param.key).Nodup := by simpa [pairEntry, Function.comp_def] using hdistinct
  have hsame : ∀ key, t.isLive key = u.isLive key := by
    intro key
    rw [Bool.eq_iff_iff, hleads, hleads']
    exact ⟨Leads.perm hentries, Leads.perm hentries.symm⟩
  refine ⟨empty chains, t, u, hbuilt, ht, hu, fun key => ?_, hleads, hstands⟩
  have hboth := hsame key
  rw [isLive, Keyed.has, isLive, Keyed.has] at hboth
  cases hp : Keyed.get? key t.live with
  | none =>
    cases hq : Keyed.get? key u.live with
    | none => exact Option.Rel.none
    | some q => simp [hp, hq] at hboth
  | some p =>
    cases hq : Keyed.get? key u.live with
    | none => simp [hp, hq] at hboth
    | some q => exact Option.Rel.some ((hstands key p hp).sameButOrder hkeys hentries (hstands' key q hq))

/-- Keys of one chain from the lowest to the highest and the other way round, with one key between them. -/
theorem sameButOrder_insertEach_reversed :
    ∃ t u, (empty [[['a'], ['b'], ['c']]]).insertEach
        [(['a'], ['1']), (['x'], ['2']), (['b'], ['3']), (['c', ' '], ['4'])] = .ok t ∧
      (empty [[['a'], ['b'], ['c']]]).insertEach
        [(['c', ' '], ['4']), (['b'], ['3']), (['x'], ['2']), (['a'], ['1'])] = .ok u ∧
      t.SameButOrder u := by
  have hread : readChains (chainsValue [[['a'], ['b'], ['c']]]) = .ok [[['a'], ['b'], ['c']]] := rfl
  have hnamed : ∀ pair ∈ ([(['a'], ['1']), (['x'], ['2']), (['b'], ['3']), (['c', ' '], ['4'])] : List (Text × Text)),
      Text.trim pair.1 ≠ [] := by decide
  obtain ⟨bare, t, u, hbare, ht, hu, hsame, -⟩ := sameButOrder_insertEach hread (List.pairwise_singleton _ _) hnamed
    (by decide) (List.reverse_perm _).symm
  obtain rfl : empty [[['a'], ['b'], ['c']]] = bare := Except.ok.inj hbare
  exact ⟨t, u, ht, hu, hsame⟩

end ParamTable

end PageMarkup
