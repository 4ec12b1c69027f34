import PageMarkup.Proofs.Param.Seeds
import PageMarkup.Proofs.Param.Summary

/-!
# Parameters and the arguments that they were read from

A table that is made of arguments and has no values on record has one parameter for each of them, in the order in which
they were written: two arguments under one key would leave a value on record. Each parameter says what its argument says
and keeps the text of it (`ParamTable.forall₂_readFrom`).
-/
namespace PageMarkup

/-- Whether a parameter says what an argument says, and keeps the text of it. -/
structure Param.ReadFrom (arg : Argument) (p : Param) : Prop where
  source_eq : p.source = .text arg.written
  named : Text.trim (arg.key.getD []) ≠ [] →
    p.unnamed = false ∧ p.key = Text.trim (arg.key.getD []) ∧ p.value = Text.trim arg.value
  unnamed : Text.trim (arg.key.getD []) = [] → p.unnamed = true ∧ p.value = arg.value

namespace ParamTable

theorem Entered.superseded_eq {chains : List (List Text)} {seeds : List Seed} {entries : List Param}
    (h : Entered chains seeds entries) : ∀ e ∈ entries, e.superseded = [] := by
  induction h with
  | nil => simp
  | snoc _ he ih =>
    intro e hmem
    obtain hmem | hmem := List.mem_append.mp hmem
    · exact ih e hmem
    · obtain rfl := List.mem_singleton.mp hmem
      exact he.superseded_eq

/-- Arguments are entered one by one. -/
theorem Entered.forall₂_readFrom {chains : List (List Text)} {seeds : List Seed} {entries : List Param}
    (h : Entered chains seeds entries) {args : List Argument} (hargs : seeds = args.map Argument.seed) :
    List.Forall₂ (fun (e : Param) arg => e.ReadFrom arg) entries args := by
  induction h generalizing args with
  | nil =>
    obtain rfl := List.map_eq_nil_iff.mp hargs.symm
    exact List.Forall₂.nil
  | @snoc seeds entries seed e _ he ih =>
    obtain ⟨before, last, rfl, hbefore, hlast⟩ := List.map_eq_append_iff.mp hargs.symm
    obtain ⟨arg, rfl, rfl⟩ := List.map_eq_singleton_iff.mp hlast
    have hread : e.ReadFrom arg := by
      have hkey := arg.getD_key_seed
      refine ⟨he.source_eq, fun hnamed => ?_, fun hblank => ?_⟩
      · rw [← hkey] at hnamed ⊢
        exact he.named hnamed
      · rw [← hkey] at hblank
        obtain ⟨hunnamed, hvalue, -⟩ := he.unnamed hblank
        exact ⟨hunnamed, hvalue⟩
    exact List.rel_append (ih hbefore.symm) (List.Forall₂.cons hread List.Forall₂.nil)

section

variable {t : ParamTable} {entries : List Param}

/-- An entry is the only one under its key and is live, if no value is on record. -/
theorem Summarizes.exists_split_of_no_records (hdisjoint : t.chains.Pairwise List.Disjoint)
    (hes : t.Summarizes entries) (hrecords : ∀ key p, Keyed.get? key t.live = some p → p.superseded = [])
    {e : Param} (he : e ∈ entries) :
    ∃ before behind, entries = before ++ e :: behind ∧ (∀ other ∈ before ++ behind, other.key ≠ e.key) ∧
      Keyed.get? e.key t.live = some { e with superseded := [] } := by
  obtain ⟨leader, hleader, hover⟩ := exists_leads hdisjoint he
  have hakin : Akin t.chains e.key leader := hover.elim (fun heq => Or.inl heq.symm) fun h => h.akin.symm
  obtain ⟨p, hp⟩ := isLive_iff.mp ((hes.live_iff leader).mpr hleader)
  obtain ⟨before, own, behind, hsplit, hkey, -, hown, hperm⟩ := hes.standsFor leader p hp
  rw [hrecords leader p hp] at hown hperm
  have hapart : ∀ other ∈ before ++ behind, ¬ Akin t.chains other.key leader := by
    have hnone := List.map_eq_nil_iff.mp (List.nil_perm.mp hperm)
    intro other hother
    simpa using List.filter_eq_nil_iff.mp hnone other hother
  have hself : e = own := by
    rw [hsplit, List.mem_append, List.mem_cons] at he
    obtain he | rfl | he := he
    · exact absurd hakin (hapart e (List.mem_append_left _ he))
    · rfl
    · exact absurd hakin (hapart e (List.mem_append_right _ he))
  obtain rfl := hself
  refine ⟨before, behind, hsplit, fun other hother heq => ?_, ?_⟩
  · exact hapart other hother (heq ▸ hakin)
  · subst hkey
    rw [hp, hown]

theorem Summarizes.nodup_keys (hdisjoint : t.chains.Pairwise List.Disjoint) (hes : t.Summarizes entries)
    (hrecords : ∀ key p, Keyed.get? key t.live = some p → p.superseded = []) : (entries.map Param.key).Nodup := by
  rw [List.nodup_iff_count_eq_one]
  intro key hkey
  obtain ⟨e, he, rfl⟩ := List.mem_map.mp hkey
  obtain ⟨before, behind, hsplit, hapart, -⟩ := hes.exists_split_of_no_records hdisjoint hrecords he
  have hbefore : e.key ∉ before.map Param.key := by
    simpa using fun other hother => hapart other (List.mem_append_left _ hother)
  have hbehind : e.key ∉ behind.map Param.key := by
    simpa using fun other hother => hapart other (List.mem_append_right _ hother)
  rw [hsplit, List.map_append, List.map_cons, List.count_append, List.count_cons_self,
    List.count_eq_zero_of_not_mem hbefore, List.count_eq_zero_of_not_mem hbehind]

theorem Summarizes.order_eq_of_no_records (hdisjoint : t.chains.Pairwise List.Disjoint) (hes : t.Summarizes entries)
    (hrecords : ∀ key p, Keyed.get? key t.live = some p → p.superseded = []) : t.order = entries.map Param.key := by
  rw [hes.order_eq, (hes.nodup_keys hdisjoint hrecords).dedup, List.filter_eq_self]
  intro key hkey
  obtain ⟨e, he, rfl⟩ := List.mem_map.mp hkey
  obtain ⟨-, -, -, -, hget⟩ := hes.exists_split_of_no_records hdisjoint hrecords he
  exact isLive_iff.mpr ⟨_, hget⟩

end

/-- A table is made of arguments if each of them can be entered into the table of those before. -/
theorem ofSeedValues_eq_ok_iff {args : List Argument} {chains : List (List Text)} {t : ParamTable} :
    ofSeedValues (args.map Argument.toSeed) chains = .ok t ↔
      (∀ before seed behind, args.map Argument.seed = before ++ seed :: behind →
        (ofSeeds before chains).Enterable seed) ∧ t = ofSeeds (args.map Argument.seed) chains := by
  have hseeds : (args.map Argument.toSeed).mapM SeedValue.toSeed = .ok (args.map Argument.seed) := by
    rw [Outcome.mapM_eq_ok, List.forall₂_map_left_iff, List.forall₂_map_right_iff, List.forall₂_same]
    exact fun arg _ => arg.toSeed_toSeed
  have hstep : ∀ (t : ParamTable) (v : SeedValue) (seed : Seed) (u : ParamTable), v.toSeed = .ok seed →
      (t.enterSeed v = .ok u ↔ t.Enterable seed ∧ u = t.addSeed seed) := fun _ _ _ _ hv => enterSeed_eq_ok_iff hv
  exact foldlM_eq_ok_iff hstep hseeds

/-- Whether the arguments can be entered one after another: where one has no key, none that is live by then is too long a
numeral for a free number to be looked for. -/
def TakesArguments (chains : List (List Text)) (args : List Argument) : Prop :=
  ∀ before arg behind, args = before ++ arg :: behind → Text.trim (arg.key.getD []) = [] →
    ∀ key, (ofSeeds (before.map Argument.seed) chains).isLive key = true → isOverlongKey key = false

theorem exists_ofSeedValues_iff {args : List Argument} {chains : List (List Text)} :
    (∃ t, ofSeedValues (args.map Argument.toSeed) chains = .ok t) ↔ TakesArguments chains args := by
  constructor
  · rintro ⟨t, ht⟩ before arg behind rfl hblank
    have hfree := (ofSeedValues_eq_ok_iff.mp ht).1 (before.map Argument.seed) arg.seed (behind.map Argument.seed) (by simp)
    exact hfree (by rwa [arg.getD_key_seed])
  · intro htakes
    refine ⟨_, ofSeedValues_eq_ok_iff.mpr ⟨fun before seed behind hsplit hblank => ?_, rfl⟩⟩
    obtain ⟨front, rest, hargs, rfl, hrest⟩ := List.map_eq_append_iff.mp hsplit
    obtain ⟨arg, others, rfl, rfl, -⟩ := List.map_eq_cons_iff.mp hrest
    rw [arg.getD_key_seed] at hblank
    exact htakes front arg others hargs hblank

/-- Arguments of which none has a key that is too long a numeral, nor could be given one, can be entered. -/
theorem TakesArguments.of_keys {args : List Argument} (h : ∀ key, IsKeyOf args key → isOverlongKey key = false)
    (chains : List (List Text)) : TakesArguments chains args := by
  rw [← exists_ofSeedValues_iff]
  cases hmade : ofSeedValues (args.map Argument.toSeed) chains with
  | ok t => exact ⟨t, rfl⟩
  | error fault =>
    obtain ⟨key, hkey, hoverlong, -⟩ := ofSeedValues_eq_error hmade
    exact absurd ((h key hkey).symm.trans hoverlong) Bool.false_ne_true

/-- Without values on record, the keys of a table in order are those of the arguments that it was made of. -/
theorem forall₂_readFrom {args : List Argument} {chains : List (List Text)} (hdisjoint : chains.Pairwise List.Disjoint)
    {t : ParamTable} (h : ofSeedValues (args.map Argument.toSeed) chains = .ok t)
    (hrecords : ∀ key p, Keyed.get? key t.live = some p → p.superseded = []) :
    List.Forall₂ (fun key arg => ∃ p, Keyed.get? key t.live = some p ∧ p.ReadFrom arg) t.order args := by
  obtain rfl : t = ofSeeds (args.map Argument.seed) chains := (ofSeedValues_eq_ok_iff.mp h).2
  obtain ⟨entries, hentered⟩ := exists_entered hdisjoint (args.map Argument.seed)
  have hsummary := hentered.summarizes hdisjoint
  have hkept : (ofSeeds (args.map Argument.seed) chains).chains.Pairwise List.Disjoint :=
    (reached_ofSeeds _ chains).chains_eq.symm ▸ hdisjoint
  have hlive : ∀ e ∈ entries, Keyed.get? e.key (ofSeeds (args.map Argument.seed) chains).live = some e := by
    intro e he
    obtain ⟨-, -, -, -, hget⟩ := hsummary.exists_split_of_no_records hkept hrecords he
    rw [hget, ← hentered.superseded_eq e he]
  rw [hsummary.order_eq_of_no_records hkept hrecords, List.forall₂_map_left_iff]
  refine ((List.forall₂_and_left _ _).mpr ⟨hlive, hentered.forall₂_readFrom rfl⟩).imp ?_
  exact fun e arg ⟨hget, hread⟩ => ⟨e, hget, hread⟩

/-- A live parameter of such a table has one of the texts for its source. -/
theorem exists_source_of_forall₂ {t : ParamTable} (ht : t.Ordered) {args : List Argument}
    (h : List.Forall₂ (fun key arg => ∃ p, Keyed.get? key t.live = some p ∧ p.ReadFrom arg) t.order args)
    {key : Text} {p : Param} (hp : Keyed.get? key t.live = some p) : ∃ arg ∈ args, p.source = .text arg.written := by
  obtain ⟨⟨i, hi⟩, rfl⟩ := List.mem_iff_get.mp ((ht.mem_iff key).mpr (isLive_iff.mpr ⟨p, hp⟩))
  obtain ⟨q, hq, hread⟩ := h.get hi (h.length_eq ▸ hi)
  obtain rfl := Option.some.inj (hq.symm.trans hp)
  exact ⟨_, List.get_mem _ _, hread.source_eq⟩

end ParamTable

end PageMarkup
