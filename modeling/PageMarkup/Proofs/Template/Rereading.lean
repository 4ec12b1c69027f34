import PageMarkup.Proofs.Param.Summary
import PageMarkup.Proofs.Text.Search
import PageMarkup.Template.Render

/-!
# Reading back what was written

A template that is written anew has its parameters in order, each behind a pipe, and an unnamed one without its key
unless its value has an equals sign. Read again, such a piece gets the least number that is free among the keys before
it, which need not be the number that it had: a key further on may then take its place, and a value is lost.
`Renumbered` says which keys the pieces get, and `Template.rereads_iff_renumbered` that the parameters mean the same if
and only if these are the keys that they had, each with its value.
-/
namespace PageMarkup

/-! ## Pieces -/

/-- Whether a parameter is written without its key. -/
def Param.isBare (p : Param) : Bool := p.unnamed && !p.value.contains '='

/-- What is written behind the pipe for a parameter. -/
def Param.piece (p : Param) : Text := if p.isBare then p.value else p.key ++ '=' :: p.value

/-- What a piece between pipes is read as: it has a key if it has an equals sign. -/
def readPiece (piece : Text) : SeedValue :=
  match Text.cutAtFirst '=' piece with
  | (value, none) => { value := .text value, source := .text ('|' :: piece) }
  | (key, some value) => { value := .text value, key := .text key, source := .text ('|' :: piece) }

/-- The seed that a parameter becomes when it is written and read again. -/
def Param.rereadSeed (p : Param) : Seed :=
  { value := p.value, key := if p.isBare then none else some p.key, source := .text ('|' :: p.piece) }

theorem toSeed_readPiece {p : Param} (hne : p.key ≠ []) (hkey : '=' ∉ p.key) :
    (readPiece p.piece).toSeed = .ok p.rereadSeed := by
  cases hbare : p.isBare with
  | true =>
    have hvalue : '=' ∉ p.value := by
      rw [Param.isBare, Bool.and_eq_true, Bool.not_eq_true'] at hbare
      simpa using hbare.2
    have hpiece : p.piece = p.value := by rw [Param.piece, if_pos hbare]
    have hread : readPiece p.piece = { value := .text p.value, source := .text ('|' :: p.piece) } := by
      rw [readPiece, hpiece, Text.cutAtFirst_of_notMem hvalue]
    rw [hread, Param.rereadSeed, hbare]
    rfl
  | false =>
    have hpiece : p.piece = p.key ++ '=' :: p.value := by rw [Param.piece, hbare, if_neg Bool.false_ne_true]
    have hread : readPiece p.piece =
        { value := .text p.value, key := .text p.key, source := .text ('|' :: p.piece) } := by
      rw [readPiece, hpiece, Text.cutAtFirst_append_cons p.value hkey]
    have htruthy : (Datum.text p.key : Value).truthy = true := by simp [Datum.truthy, hne]
    rw [hread, Param.rereadSeed, hbare, SeedValue.toSeed]
    simp only [htruthy, if_true]
    rfl

theorem notMem_piece {p : Param} (hkey : '|' ∉ p.key) (hvalue : '|' ∉ p.value) : '|' ∉ p.piece := by
  unfold Param.piece
  split
  · exact hvalue
  · simp [hkey, hvalue]

/-! ## Keys by position -/

namespace ParamTable

/-- The keys that parameters get when their pieces are read one after another, behind keys that are live already: a bare
piece gets the numeral of the least positive number that none of the keys before it denotes, if these can all be
read. -/
inductive Renumbered : List Text → List Param → List Text → Prop where
  | nil (before : List Text) : Renumbered before [] []
  | keyed {before : List Text} {p : Param} {params : List Param} {keys : List Text} (hp : p.isBare = false)
      (h : Renumbered (p.key :: before) params keys) : Renumbered before (p :: params) (p.key :: keys)
  | bare {before : List Text} {p : Param} {params : List Param} {keys : List Text} {n : Nat} (hp : p.isBare = true)
      (hread : ∀ key ∈ before, isOverlongKey key = false) (hn : IsLeast (FreeNumbers (· ∈ before)) n)
      (h : Renumbered (Text.ofNat n :: before) params keys) :
      Renumbered before (p :: params) (Text.ofNat n :: keys)

theorem Renumbered.length_eq {before : List Text} {params : List Param} {keys : List Text}
    (h : Renumbered before params keys) : keys.length = params.length := by
  induction h with
  | nil => rfl
  | keyed _ _ ih => simp [ih]
  | bare _ _ _ _ ih => simp [ih]

section

variable {t : ParamTable} {p : Param}

theorem key_paramOf_of_bare (hp : p.isBare = true) :
    (t.paramOf p.rereadSeed.toRegistration).key = Text.ofNat t.leastFree := by
  have hkey : p.rereadSeed.toRegistration.key = [] := by simp [Param.rereadSeed, Seed.toRegistration, hp]
  rw [paramOf_of_blank (by rw [hkey]; rfl)]
  rfl

theorem key_paramOf_of_not_bare (hp : p.isBare = false) (hfits : p.Fits p.key) :
    (t.paramOf p.rereadSeed.toRegistration).key = p.key := by
  have hkey : p.rereadSeed.toRegistration.key = p.key := by simp [Param.rereadSeed, Seed.toRegistration, hp]
  rw [paramOf_of_named (by rw [hkey, hfits.trim_key]; exact hfits.key_ne_nil), hkey, hfits.trim_key]

theorem trim_value_paramOf (r : Registration) : Text.trim (t.paramOf r).value = Text.trim r.value := by
  by_cases hblank : Text.trim r.key = []
  · rw [paramOf_of_blank hblank]
  · rw [paramOf_of_named hblank, Text.trim_trim]

/-- The first of the keys is the one that is registered for the first piece. -/
theorem renumbered_cons_iff {before : List Text} (hlive : ∀ key, t.isLive key = true ↔ key ∈ before)
    (hfits : p.Fits p.key) {params : List Param} {keys : List Text} :
    Renumbered before (p :: params) keys ↔
      t.Enterable p.rereadSeed ∧ ∃ rest, keys = (t.paramOf p.rereadSeed.toRegistration).key :: rest ∧
        Renumbered ((t.paramOf p.rereadSeed.toRegistration).key :: before) params rest := by
  cases hp : p.isBare with
  | true =>
    have hleast : IsLeast (FreeNumbers (· ∈ before)) t.leastFree := isLeast_leastFree_of_isLive_iff hlive
    rw [key_paramOf_of_bare hp]
    constructor
    · intro h
      cases h with
      | keyed hkeyed => simp [hp] at hkeyed
      | bare _ hread hn hrest =>
        obtain rfl := hn.unique hleast
        exact ⟨fun _ key hkey => hread key ((hlive key).mp hkey), _, rfl, hrest⟩
    · rintro ⟨hfree, rest, rfl, hrest⟩
      have hblank : Text.trim (p.rereadSeed.key.getD []) = [] := by
        rw [Param.rereadSeed, hp]
        rfl
      exact Renumbered.bare hp (fun key hkey => hfree hblank key ((hlive key).mpr hkey)) hleast hrest
  | false =>
    rw [key_paramOf_of_not_bare hp hfits]
    constructor
    · intro h
      cases h with
      | keyed _ hrest =>
        refine ⟨fun hblank => ?_, _, rfl, hrest⟩
        have hkey : p.rereadSeed.key.getD [] = p.key := by simp [Param.rereadSeed, hp]
        rw [hkey, hfits.trim_key] at hblank
        exact absurd hblank hfits.key_ne_nil
      | bare hbare => simp [hp] at hbare
    · rintro ⟨-, rest, rfl, hrest⟩
      exact Renumbered.keyed hp hrest

/-! ## Reading the pieces -/

/-- The value under a key, without the blanks around it. -/
def trimmedValue? (t : ParamTable) (key : Text) : Option Text :=
  (Keyed.get? key t.live).map fun p => Text.trim p.value

/-- Without chains a seed takes the place of what is under its key, and of nothing else. -/
theorem get?_addSeed_of_chains_eq_nil (hchains : t.chains = []) (seed : Seed) :
    ∃ superseded, ∀ key, Keyed.get? key (t.addSeed seed).live =
      if (t.paramOf seed.toRegistration).key = key then some { t.paramOf seed.toRegistration with superseded }
      else Keyed.get? key t.live := by
  have hdisjoint : t.chains.Pairwise List.Disjoint := by simp [hchains]
  have houtranks : ∀ high low, ¬ Outranks t.chains high low := by
    rintro high low ⟨chain, hchain, -⟩
    simp [decidingChain?, hchains] at hchain
  obtain ⟨-, -, hget⟩ | ⟨former, old, -, hformer, -, hget⟩ | ⟨winner, -, -, hover, -⟩ :=
    addSeed_cases hdisjoint (rfl : t.paramOf seed.toRegistration = _)
  · refine ⟨[], fun key => ?_⟩
    rw [hget]
    congr 2
    rw [← superseded_paramOf t seed.toRegistration]
  · obtain rfl := hformer.resolve_right (houtranks _ _)
    refine ⟨old.superseded ++ [old.asSuperseded], fun key => (hget key).trans ?_⟩
    split
    · rfl
    · rfl
  · exact absurd hover (houtranks _ _)

theorem trimmedValue?_addSeed (hchains : t.chains = []) (seed : Seed) (key : Text) :
    (t.addSeed seed).trimmedValue? key =
      if (t.paramOf seed.toRegistration).key = key then some (Text.trim seed.value) else t.trimmedValue? key := by
  obtain ⟨superseded, hget⟩ := get?_addSeed_of_chains_eq_nil hchains seed
  unfold trimmedValue?
  rw [hget]
  split
  · exact congrArg some (trim_value_paramOf seed.toRegistration)
  · rfl

theorem isLive_addSeed_iff (hchains : t.chains = []) {before : List Text}
    (hlive : ∀ key, t.isLive key = true ↔ key ∈ before) (seed : Seed) (key : Text) :
    (t.addSeed seed).isLive key = true ↔ key ∈ (t.paramOf seed.toRegistration).key :: before := by
  obtain ⟨superseded, hget⟩ := get?_addSeed_of_chains_eq_nil hchains seed
  rw [isLive_iff_of_get? (hget key), List.mem_cons, hlive]

end

/-- The table with the pieces of parameters read one after another. -/
def reread (t : ParamTable) (params : List Param) : ParamTable := (params.map Param.rereadSeed).foldl addSeed t

/-- The pieces can be read if they can be given keys by position. -/
theorem foldlM_readPiece_eq_ok_iff {params : List Param} (hfits : ∀ p ∈ params, p.Fits p.key)
    (hchars : ∀ p ∈ params, '=' ∉ p.key) {t u : ParamTable} (hchains : t.chains = []) {before : List Text}
    (hlive : ∀ key, t.isLive key = true ↔ key ∈ before) :
    (params.map fun p => readPiece p.piece).foldlM enterSeed t = .ok u ↔
      (∃ keys, Renumbered before params keys) ∧ u = t.reread params := by
  induction params generalizing t before with
  | nil =>
    constructor
    · intro h
      exact ⟨⟨[], Renumbered.nil before⟩, (Except.ok.inj h).symm⟩
    · rintro ⟨-, rfl⟩
      rfl
  | cons p params ih =>
    obtain ⟨hp, hparams⟩ := List.forall_mem_cons.mp hfits
    obtain ⟨hkey, hkeys⟩ := List.forall_mem_cons.mp hchars
    have hread := toSeed_readPiece hp.key_ne_nil hkey
    have hnext := isLive_addSeed_iff hchains hlive p.rereadSeed
    have hrest := ih hparams hkeys ((chains_addSeed t p.rereadSeed).trans hchains) hnext
    rw [List.map_cons, List.foldlM_cons, Outcome.bind_eq_ok]
    constructor
    · rintro ⟨next, hfirst, hu⟩
      obtain ⟨hfree, rfl⟩ := (enterSeed_eq_ok_iff hread).mp hfirst
      obtain ⟨⟨keys, hrenumbered⟩, hu⟩ := hrest.mp hu
      exact ⟨⟨_, (renumbered_cons_iff hlive hp).mpr ⟨hfree, keys, rfl, hrenumbered⟩⟩, hu⟩
    · rintro ⟨⟨keys, hrenumbered⟩, hu⟩
      obtain ⟨hfree, rest, -, hrenumbered⟩ := (renumbered_cons_iff hlive hp).mp hrenumbered
      exact ⟨_, (enterSeed_eq_ok_iff hread).mpr ⟨hfree, rfl⟩, hrest.mpr ⟨⟨rest, hrenumbered⟩, hu⟩⟩

/-- After the pieces are read, a key has the value of the last piece with it. -/
theorem trimmedValue?_reread {params : List Param} (hfits : ∀ p ∈ params, p.Fits p.key) {t : ParamTable}
    (hchains : t.chains = []) {before keys : List Text} (hlive : ∀ key, t.isLive key = true ↔ key ∈ before)
    (h : Renumbered before params keys) (key : Text) :
    (t.reread params).trimmedValue? key =
      (Keyed.get? key (keys.zip (params.map fun p => Text.trim p.value)).reverse).or (t.trimmedValue? key) := by
  -- A later piece goes before an earlier one, and all pieces before what was in the table.
  induction params generalizing t before keys with
  | nil =>
    cases h
    rfl
  | cons p params ih =>
    obtain ⟨hp, hparams⟩ := List.forall_mem_cons.mp hfits
    obtain ⟨-, rest, rfl, hrest⟩ := (renumbered_cons_iff hlive hp).mp h
    have hnext := isLive_addSeed_iff hchains hlive p.rereadSeed
    have hvalue : Text.trim p.rereadSeed.value = Text.trim p.value := rfl
    calc (t.reread (p :: params)).trimmedValue? key
        = ((t.addSeed p.rereadSeed).reread params).trimmedValue? key := rfl
      _ = (Keyed.get? key (rest.zip (params.map fun p => Text.trim p.value)).reverse).or
            ((t.addSeed p.rereadSeed).trimmedValue? key) :=
          ih hparams ((chains_addSeed t p.rereadSeed).trans hchains) hnext hrest
      _ = _ := by
          rw [trimmedValue?_addSeed hchains, hvalue, List.map_cons, List.zip_cons_cons, List.reverse_cons,
            Keyed.get?_append, Option.or_assoc]
          congr 1
          simp only [Keyed.get?]
          split
          · rfl
          · rfl

/-- The values of a table are those of its parameters in order. -/
theorem trimmedValue?_eq {chains : List (List Text)} {t : ParamTable} (ht : Reached chains t) {params : List Param}
    (hperm : params.Perm (t.live.map Prod.snd)) (key : Text) :
    t.trimmedValue? key = Keyed.get? key (params.map fun p => (p.key, Text.trim p.value)) := by
  have hentries : (t.live.map fun entry => (entry.2.key, Text.trim entry.2.value)) =
      t.live.map fun entry => (entry.1, Text.trim entry.2.value) := by
    refine List.map_congr_left fun entry hentry => ?_
    rw [(ht.fits_of_mem hentry).key_eq]
  have hpairs : (params.map fun p => (p.key, Text.trim p.value)).Perm
      (t.live.map fun entry => (entry.1, Text.trim entry.2.value)) := by
    have hmap := hperm.map fun p => (p.key, Text.trim p.value)
    rwa [List.map_map, show (fun p : Param => (p.key, Text.trim p.value)) ∘ Prod.snd =
      fun entry : Text × Param => (entry.2.key, Text.trim entry.2.value) from rfl, hentries] at hmap
  have hkeys : (Keyed.keys (t.live.map fun entry => (entry.1, Text.trim entry.2.value))).Nodup := by
    rw [Keyed.keys, List.map_map]
    exact ht.distinctKeys
  rw [(Keyed.get?_eq_iff_perm hkeys hpairs.length_eq).mpr hpairs key, trimmedValue?]
  exact (Keyed.get?_map (fun p : Param => Text.trim p.value) key t.live).symm

/-- Read again, the pieces mean the same if and only if the keys that they get by position are the keys that they had,
each with its value. -/
theorem exists_reread_iff {t : ParamTable} (ht : Reached [] t) {params : List Param}
    (hperm : params.Perm (t.live.map Prod.snd)) (hchars : ∀ p ∈ params, '=' ∉ p.key) :
    (∃ u, ofSeedValues (params.map fun p => readPiece p.piece) [] = .ok u ∧
        ∀ key, u.trimmedValue? key = t.trimmedValue? key) ↔
      ∃ keys, Renumbered [] params keys ∧
        (keys.zip (params.map fun p => Text.trim p.value)).Perm (params.map fun p => (p.key, Text.trim p.value)) := by
  have hfits : ∀ p ∈ params, p.Fits p.key := by
    intro p hp
    obtain ⟨entry, hentry, rfl⟩ := List.mem_map.mp (hperm.mem_iff.mp hp)
    have h := ht.fits_of_mem hentry
    rwa [← h.key_eq] at h
  have hlive : ∀ key, (empty []).isLive key = true ↔ key ∈ ([] : List Text) := by simp
  have hread : ∀ u, ofSeedValues (params.map fun p => readPiece p.piece) [] = .ok u ↔
      (∃ keys, Renumbered [] params keys) ∧ u = (empty []).reread params := fun u =>
    foldlM_readPiece_eq_ok_iff hfits hchars rfl hlive
  have hkeys : (Keyed.keys (params.map fun p => (p.key, Text.trim p.value))).Nodup := by
    have hnodup := (hperm.map Param.key).nodup_iff.mpr (?_ : ((t.live.map Prod.snd).map Param.key).Nodup)
    · rwa [Keyed.keys, List.map_map]
    · have hsame : (t.live.map Prod.snd).map Param.key = Keyed.keys t.live := by
        rw [Keyed.keys, List.map_map]
        refine List.map_congr_left fun entry hentry => ?_
        exact (ht.fits_of_mem hentry).key_eq
      rw [hsame]
      exact ht.distinctKeys
  have hmeans : ∀ keys, Renumbered [] params keys →
      ((∀ key, ((empty []).reread params).trimmedValue? key = t.trimmedValue? key) ↔
        (keys.zip (params.map fun p => Text.trim p.value)).Perm
          (params.map fun p => (p.key, Text.trim p.value))) := by
    intro keys hrenumbered
    have hlength : (keys.zip (params.map fun p => Text.trim p.value)).reverse.length =
        (params.map fun p => (p.key, Text.trim p.value)).length := by
      simp [hrenumbered.length_eq]
    have hreverse : (keys.zip (params.map fun p => Text.trim p.value)).reverse.Perm
          (params.map fun p => (p.key, Text.trim p.value)) ↔
        (keys.zip (params.map fun p => Text.trim p.value)).Perm
          (params.map fun p => (p.key, Text.trim p.value)) :=
      ⟨(List.reverse_perm _).symm.trans, (List.reverse_perm _).trans⟩
    rw [← hreverse, ← Keyed.get?_eq_iff_perm hkeys hlength]
    refine forall_congr' fun key => ?_
    have hnone : (empty []).trimmedValue? key = none := rfl
    rw [trimmedValue?_reread hfits rfl hlive hrenumbered, hnone, Option.or_none, trimmedValue?_eq ht hperm]
  constructor
  · rintro ⟨u, hu, hsame⟩
    obtain ⟨⟨keys, hrenumbered⟩, rfl⟩ := (hread u).mp hu
    exact ⟨keys, hrenumbered, (hmeans keys hrenumbered).mp hsame⟩
  · rintro ⟨keys, hrenumbered, hpairs⟩
    exact ⟨_, (hread _).mpr ⟨⟨keys, hrenumbered⟩, rfl⟩, (hmeans keys hrenumbered).mpr hpairs⟩

end ParamTable

/-! ## Templates -/

/-- The templates without hierarchies that are made by a caller or found by a scan, and then changed by calls. -/
inductive Template.Made : Template → Prop where
  | create {site : Option Site} {title params : Value} {t : Template} (h : create site title params .null = .ok t) :
      Made t
  | ofRecord {site : Option Site} {record : BraceRecord} {t : ScannedTemplate}
      (h : ScannedTemplate.ofRecord site record .null = .ok t) : Made t.toTemplate
  | edit {t : Template} (ht : Made t) (call : ParamTable.Edit) : Made { t with params := t.params.after call }

theorem Template.Made.reached {t : Template} (ht : t.Made) : ParamTable.Reached [] t.params := by
  induction ht with
  | create h =>
    obtain ⟨title, -, h⟩ := Outcome.bind_eq_ok.mp h
    obtain ⟨params, hparams, h⟩ := Outcome.bind_eq_ok.mp h
    obtain ⟨chains, hchains, hreached⟩ := ParamTable.exists_reached_of_ofValues hparams
    obtain rfl := Except.ok.inj h
    obtain rfl : [] = chains := Except.ok.inj hchains
    exact hreached
  | ofRecord h =>
    obtain ⟨title, -, h⟩ := Outcome.bind_eq_ok.mp h
    obtain ⟨chains, hchains, h⟩ := Outcome.bind_eq_ok.mp h
    obtain ⟨params, hparams, h⟩ := Outcome.bind_eq_ok.mp h
    obtain rfl := Except.ok.inj h
    obtain rfl : [] = chains := Except.ok.inj hchains
    exact ParamTable.reached_ofSeedValues hparams
  | edit _ call ih => exact ih.after (by simp [ParamTable.TrimmedChains]) call

theorem paramText_canonical (p : Param) : ({ canonical := true } : TemplateStyle).paramText p = '|' :: p.piece := by
  have hwritten : writeParam p.isBare p.key p.value = '|' :: p.piece := by
    cases hbare : p.isBare with
    | true => simp [writeParam, Param.piece, hbare]
    | false => simp [writeParam, Param.piece, hbare]
  rw [← hwritten]
  unfold TemplateStyle.paramText
  simp only [TemplateStyle.keeps, TemplateStyle.bares, List.contains_nil, Bool.false_and, Bool.or_false, Bool.not_true]
  split
  · rfl
  · rfl

/-- All parameters are written anew, each behind a pipe, whatever they were read from. -/
theorem tableText_canonical {t : ParamTable} {params : List Param} (h : t.inOrder = .ok params)
    (scanned? : Except Fault (Option Text)) :
    ({ canonical := true } : TemplateStyle).tableText t scanned? =
      .ok ((params.map Param.piece).flatMap ('|' :: ·)) := by
  have hwritable : ({ canonical := true } : TemplateStyle).unwritable? params = none := by
    simp [TemplateStyle.unwritable?, TemplateStyle.keeps]
  have htext : ({ canonical := true } : TemplateStyle).paramsText params =
      (params.map Param.piece).flatMap ('|' :: ·) := by
    rw [TemplateStyle.paramsText, TemplateStyle.arrange, List.flatMap_map]
    refine List.flatMap_congr fun p _ => ?_
    simp [TemplateStyle.paramLine, paramText_canonical]
  simp [TemplateStyle.tableText, TemplateStyle.reformats, h, hwritable, htext, bind, Except.bind, pure, Except.pure]

/-- Written anew, a template is its title and the pieces of its parameters, in order and each behind a pipe. If the pieces
are read again, the keys and their values are the same if and only if the keys that the pieces get by position are those
that the parameters had, each with its value. -/
theorem Template.rereads_iff_renumbered {t : Template} (ht : t.Made)
    (hchars : ∀ key p, Keyed.get? key t.params.live = some p → '=' ∉ key ∧ '|' ∉ key ∧ '|' ∉ p.value) :
    ∃ params text pieces, t.params.inOrder = .ok params ∧
      t.render { canonical := true } = .ok (writeBraces t.titleText text) ∧
      (∀ s : ScannedTemplate, s.toTemplate = t →
        s.render false { canonical := true } = .ok (writeBraces t.titleText text)) ∧
      Text.splitOn '|' text = [] :: pieces ∧
      ((∃ u, ParamTable.ofSeedValues (pieces.map readPiece) [] = .ok u ∧
          ∀ key, u.trimmedValue? key = t.params.trimmedValue? key) ↔
        ∃ keys, ParamTable.Renumbered [] params keys ∧
          (keys.zip (params.map fun p => Text.trim p.value)).Perm
            (params.map fun p => (p.key, Text.trim p.value))) := by
  have hreached := ht.reached
  have hmutual : ParamTable.MutualChains [] := ParamTable.mutualChains_of_disjoint List.Pairwise.nil
  obtain ⟨params, hparams, hperm⟩ :=
    (hreached.ordered_and_noRivals hmutual).1.exists_inOrder_perm hreached.distinctKeys
  have hlive : ∀ p ∈ params, '=' ∉ p.key ∧ '|' ∉ p.key ∧ '|' ∉ p.value := by
    intro p hp
    obtain ⟨entry, hentry, rfl⟩ := List.mem_map.mp (hperm.mem_iff.mp hp)
    have hget := Keyed.get?_of_mem hreached.distinctKeys hentry
    rw [(hreached.fits_of_mem hentry).key_eq]
    exact hchars entry.1 entry.2 hget
  have hhead : ∀ plain, ({ canonical := true } : TemplateStyle).headText t.hasLeadingColon t.titleText plain =
      t.titleText := fun plain => by simp [TemplateStyle.headText, Text.endsWith]
  refine ⟨params, (params.map Param.piece).flatMap ('|' :: ·), params.map Param.piece, hparams, ?_, ?_, ?_, ?_⟩
  · rw [Template.render, tableText_canonical hparams, hhead]
    rfl
  · rintro s rfl
    rw [ScannedTemplate.render, tableText_canonical hparams, ScannedTemplate.titlePart, if_neg Bool.false_ne_true, hhead]
    rfl
  · have hpieces : ∀ piece ∈ params.map Param.piece, '|' ∉ piece := by
      intro piece hpiece
      obtain ⟨p, hp, rfl⟩ := List.mem_map.mp hpiece
      exact notMem_piece (hlive p hp).2.1 (hlive p hp).2.2
    exact Text.splitOn_append_flatMap (List.not_mem_nil) hpieces
  · rw [List.map_map]
    exact ParamTable.exists_reread_iff hreached hperm fun p hp => (hlive p hp).1

/-- A site without namespaces of its own. -/
def rereadSite : Site := Site.ofParts .null [] [] [] []

/-- A named parameter before an unnamed one: both keep their keys. -/
theorem Template.rereads_keyed_bare :
    ∃ t : Template, t.Made ∧
      t.render { canonical := true } = .ok "\x7b\x7bFoo|k=v|a\x7d\x7d".toList ∧
      ∃ text pieces u, t.render { canonical := true } = .ok (writeBraces t.titleText text) ∧
        Text.splitOn '|' text = [] :: pieces ∧ ParamTable.ofSeedValues (pieces.map readPiece) [] = .ok u ∧
        ∀ key, u.trimmedValue? key = t.params.trimmedValue? key := by
  obtain ⟨t, ht, hlive, horder, hwritten⟩ : ∃ t : Template,
      create (some rereadSite) (.text "Foo".toList)
        (.list [.tuple [.text ['k'], .text ['v']], .tuple [.null, .text ['a']]]) .null = .ok t ∧
      t.params.live = [(['k'], ⟨['k'], ['v'], false, [], .null⟩), (['1'], ⟨['1'], ['a'], true, [], .null⟩)] ∧
      t.params.inOrder = .ok [⟨['k'], ['v'], false, [], .null⟩, ⟨['1'], ['a'], true, [], .null⟩] ∧
      t.render { canonical := true } = .ok "\x7b\x7bFoo|k=v|a\x7d\x7d".toList := ⟨_, rfl, rfl, rfl, rfl⟩
  have hmade : t.Made := Made.create ht
  have hchars : ∀ key p, Keyed.get? key t.params.live = some p → '=' ∉ key ∧ '|' ∉ key ∧ '|' ∉ p.value := by
    intro key p hp
    rw [hlive] at hp
    obtain heq | heq := List.mem_pair.mp (Keyed.mem_of_get? hp)
    · obtain ⟨rfl, rfl⟩ := Prod.mk.inj heq
      decide
    · obtain ⟨rfl, rfl⟩ := Prod.mk.inj heq
      decide
  obtain ⟨params, text, pieces, hparams, hrender, -, hsplit, hmeans⟩ := rereads_iff_renumbered hmade hchars
  obtain rfl := Except.ok.inj (horder.symm.trans hparams)
  have hone : IsLeast (ParamTable.FreeNumbers (· ∈ [['k']])) 1 := by
    constructor
    · exact ⟨Nat.one_pos, by simp [keyNumber?]⟩
    · exact fun n hn => hn.1
  obtain ⟨u, hread, hsame⟩ := hmeans.mpr ⟨[['k'], ['1']],
    .keyed rfl (.bare rfl (by decide) hone (.nil _)), List.Perm.refl _⟩
  exact ⟨t, hmade, hwritten, text, pieces, u, hrender, hsplit, hread, hsame⟩

/-- Two unnamed parameters and one with the key of the first. -/
def crowdedRecord : BraceRecord where
  title := "Foo".toList
  rawTitle := [titleMarker]
  written := "\x7b\x7bFoo|a|b|1=y\x7d\x7d".toList
  span := ⟨0, 15⟩
  seeds := [{ value := .text "a".toList, source := .text "|a".toList },
    { value := .text "b".toList, source := .text "|b".toList },
    { value := .text "y".toList, key := .text "1".toList, source := .text "|1=y".toList }]

/-- The second unnamed parameter is left before the named one. Read again it is the first itself, and the named one takes
its place. -/
theorem Template.reread_crowdedRecord :
    ∃ (t : ScannedTemplate) (u : ParamTable),
      ScannedTemplate.ofRecord (some rereadSite) crowdedRecord .null = .ok t ∧
      t.render false { canonical := true } = .ok "\x7b\x7bFoo|b|1=y\x7d\x7d".toList ∧
      ParamTable.ofSeedValues (["b".toList, "1=y".toList].map readPiece) [] = .ok u ∧
      t.params.trimmedValue? "2".toList = some "b".toList ∧ u.trimmedValue? "2".toList = none ∧
      t.params.trimmedValue? "1".toList = some "y".toList ∧ u.trimmedValue? "1".toList = some "y".toList :=
  ⟨_, _, rfl, rfl, rfl, rfl, rfl, rfl, rfl⟩

end PageMarkup
