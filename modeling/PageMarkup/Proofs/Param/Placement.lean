import PageMarkup.Proofs.Param.Repeating

/-!
# Where an insertion puts its key

An insertion that is answered with true changes one key. A key of its chain that it has priority over gives way
(`Evicts`), all others keep their parameters and the order that they have among each other (`KeepsOthers`), and the key
stands where its position says (`StandsAt`). The order is changed in two ways: the key is put among the keys beside it,
which are those of the order before without the one that gives way, or it takes the very place of that one.
-/
namespace PageMarkup.ParamTable

variable {t u : ParamTable} {key ref loser : Text} {position : Option Position}

/-! ## What an insertion is to do -/

/-- Whether a live key gives way to one that has priority over it in its chain. -/
def Evicts (t : ParamTable) (key loser : Text) : Prop := t.isLive loser = true ∧ Outranks t.chains key loser

/-- Whether nothing has happened to the keys other than one, unless they gave way to it. -/
structure KeepsOthers (t u : ParamTable) (key : Text) : Prop where
  kept : ∀ other, other ≠ key → ¬ t.Evicts key other → Keyed.get? other u.live = Keyed.get? other t.live
  gone : ∀ other, t.Evicts key other → u.isLive other = false
  order_eq : besides key u.order = besides key (t.order.filter u.isLive)

/-- Where a key stands in the order of a table, after it was put into another table at a position. -/
structure StandsAt (t u : ParamTable) (key : Text) (position : Option Position) : Prop where
  start : position = some .start → u.order.head? = some key
  finish : position = some .finish → u.order.getLast? = some key
  before : ∀ ref, position = some (.before ref) → ref ≠ key → u.isLive ref = true → [key, ref] <:+: u.order
  after : ∀ ref, position = some (.after ref) → ref ≠ key → u.isLive ref = true → [ref, key] <:+: u.order
  /-- Beside the key that gave way there is only its own place. -/
  loser : ∀ ref, position.bind Position.key? = some ref → t.Evicts key ref → u.order[t.order.idxOf ref]? = some key
  /-- Beside itself, or beside another key that is not live, a key stays where it was or comes last. -/
  nowhere : ∀ ref, position.bind Position.key? = some ref → (ref = key ∨ u.isLive ref = false) →
    ¬ t.Evicts key ref → (if t.isLive key then u.order[t.order.idxOf key]? else u.order.getLast?) = some key
  stays : position = none → t.isLive key = true → u.order[t.order.idxOf key]? = some key
  replaces : position = none → ∀ loser, t.Evicts key loser → u.order[t.order.idxOf loser]? = some key
  last : position = none → t.isLive key = false → (∀ loser, ¬ t.Evicts key loser) → u.order.getLast? = some key

/-! ## Keys that give way -/

/-- No key gives way to one that stands alone in its chain. -/
theorem not_evicts_of_alone (h : t.override? key = none) (loser : Text) : ¬ t.Evicts key loser := by
  rintro ⟨hlive, houtranks⟩
  have hne : loser ≠ key := by
    rintro rfl
    exact not_outranks_self _ _ houtranks
  obtain ⟨chain, hchain, hmem, -⟩ := houtranks
  simp [override?_eq_none_iff.mp h chain hchain loser hmem hne] at hlive

/-- Under chains that do not meet one key gives way. -/
theorem Consistent.evicts_iff (ht : t.Consistent) (hdisjoint : t.chains.Pairwise List.Disjoint)
    (hover : t.override? key = some (.overrides loser)) (other : Text) : t.Evicts key other ↔ other = loser := by
  obtain ⟨hloser, -, houtranks⟩ := override?_eq_overrides hover
  constructor
  · rintro ⟨hlive, hother⟩
    exact ht.alone other loser hlive hloser (hother.akin.symm.trans hdisjoint houtranks.akin)
  · rintro rfl
    exact ⟨hloser, houtranks⟩

/-- A key that takes the place of another one is not live. -/
theorem Consistent.isLive_of_overrides (ht : t.Consistent) (hover : t.override? key = some (.overrides loser)) :
    t.isLive key = false := by
  obtain ⟨hloser, hne, houtranks⟩ := override?_eq_overrides hover
  rw [Bool.eq_false_iff]
  exact fun hlive => hne (ht.alone key loser hlive hloser houtranks.akin).symm

/-! ## Places -/

theorem besides_placeKey (key : Text) (position : Option Position) (isNew : Bool) (order : List Text) :
    besides key (placeKey key position isNew order) = besides key order := by
  obtain ⟨placed, hplaced, h⟩ | h := placeKey_cases_besides (notMem_besides key order) position
  · rw [h isNew order rfl, hplaced]
  · rw [h isNew order rfl]
    split
    · exact besides_append_self key order
    · rfl

theorem besides_filter {live : Text → Bool} {order : List Text} (h : ∀ k ∈ order, live k = true) :
    besides key (order.filter live) = besides key order := by
  rw [List.filter_eq_self.mpr h]

theorem idxOf_of_split {order front rest : List Text} (hsplit : order = front ++ key :: rest) (hfront : key ∉ front) :
    order.idxOf key = front.length := by
  rw [hsplit, List.idxOf_append_of_notMem hfront, List.idxOf_cons_self, Nat.add_zero]

/-- A key that is there is beside any other key, with the keys in front of it and behind it. -/
theorem exists_besides_eq {order : List Text} (hne : ref ≠ key) (hmem : ref ∈ order) :
    ∃ front rest, besides key order = front ++ ref :: rest ∧ (besides key order).idxOf ref = front.length := by
  have hbeside : ref ∈ besides key order := List.mem_filter.mpr ⟨hmem, by simp [hne]⟩
  obtain ⟨front, rest, hsplit, hfront⟩ := List.eq_append_cons_of_mem hbeside
  exact ⟨front, rest, hsplit, idxOf_of_split hsplit hfront⟩

theorem insertIdx_length_append (front rest : List Text) (key : Text) :
    (front ++ rest).insertIdx front.length key = front ++ key :: rest := by
  induction front with
  | nil => rfl
  | cons k front ih => simp [ih]

theorem placeKey_before (isNew : Bool) {order : List Text} (hne : ref ≠ key) (hmem : ref ∈ order) :
    [key, ref] <:+: placeKey key (some (.before ref)) isNew order := by
  obtain ⟨front, rest, hsplit, hidx⟩ := exists_besides_eq hne hmem
  have hthere : (ref ≠ key && (besides key order).contains ref) = true := by simp [hne, hsplit]
  have hplaced : placeKey key (some (.before ref)) isNew order = front ++ key :: ref :: rest := by
    refine (if_pos hthere).trans ?_
    rw [← besides, hidx, hsplit, insertIdx_length_append]
  rw [hplaced]
  exact ⟨front, rest, by simp⟩

theorem placeKey_after (isNew : Bool) {order : List Text} (hne : ref ≠ key) (hmem : ref ∈ order) :
    [ref, key] <:+: placeKey key (some (.after ref)) isNew order := by
  obtain ⟨front, rest, hsplit, hidx⟩ := exists_besides_eq hne hmem
  have hthere : (ref ≠ key && (besides key order).contains ref) = true := by simp [hne, hsplit]
  have hplaced : placeKey key (some (.after ref)) isNew order = front ++ ref :: key :: rest := by
    have hbehind := insertIdx_length_append (front ++ [ref]) rest key
    refine (if_pos hthere).trans ?_
    rw [← besides, hidx, hsplit]
    simpa using hbehind
  rw [hplaced]
  exact ⟨front, rest, by simp⟩

/-- A key that was put among the keys of an order stands there, if these are the ones that are live with it and none of
them has given way. -/
theorem standsAt_placeKey {isNew : Bool} {base : List Text} (horder : u.order = placeKey key position isNew base)
    (hbase : ∀ k ≠ key, k ∈ base ↔ u.isLive k = true) (hnew : t.isLive key = !isNew)
    (hkept : isNew = false → base = t.order ∧ key ∈ t.order)
    (hnone : position = none → ∀ loser, ¬ t.Evicts key loser)
    (hloser : ∀ ref, position.bind Position.key? = some ref → ¬ t.Evicts key ref) : StandsAt t u key position := by
  have hlast : isNew = true → u.order = base ++ [key] → u.order.getLast? = some key := by
    intro _ h
    simp [h]
  have hplace : isNew = false → u.order = base → u.order[t.order.idxOf key]? = some key := by
    intro hold h
    obtain ⟨hsame, hmem⟩ := hkept hold
    rw [h, hsame]
    exact List.getElem?_idxOf hmem
  constructor
  case start =>
    rintro rfl
    rw [horder]
    rfl
  case finish =>
    rintro rfl
    rw [horder, placeKey]
    simp
  case before =>
    rintro ref rfl hne hlive
    rw [horder]
    exact placeKey_before isNew hne ((hbase ref hne).mpr hlive)
  case after =>
    rintro ref rfl hne hlive
    rw [horder]
    exact placeKey_after isNew hne ((hbase ref hne).mpr hlive)
  case loser => exact fun ref href hevicts => absurd hevicts (hloser ref href)
  case nowhere =>
    intro ref href hgone _
    have habsent : ref = key ∨ ref ∉ base := by
      by_cases hne : ref = key
      · exact Or.inl hne
      · exact Or.inr fun hmem => by simp [(hbase ref hne).mp hmem, hne] at hgone
    rw [placeKey_of_nowhere href isNew habsent] at horder
    cases isNew with
    | true => simpa [hnew] using hlast rfl horder
    | false => simpa [hnew] using hplace rfl horder
  case stays =>
    rintro rfl hlive
    obtain rfl : isNew = false := by simpa [hlive] using hnew.symm
    exact hplace rfl horder
  case replaces => exact fun hposition loser hevicts => absurd hevicts (hnone hposition loser)
  case last =>
    rintro rfl hdead _
    obtain rfl : isNew = true := by simpa [hdead] using hnew.symm
    exact hlast rfl horder

/-- A key that took the place of the one that gave way stands there, if no other place was asked for. -/
theorem standsAt_loser (horder : u.order[t.order.idxOf loser]? = some key)
    (hevicts : ∀ other, t.Evicts key other ↔ other = loser) (hdead : t.isLive key = false)
    (hgone : u.isLive loser = false) (hposition : position = none ∨ position.bind Position.key? = some loser) :
    StandsAt t u key position := by
  have hself : t.Evicts key loser := (hevicts loser).mpr rfl
  have hbeside : ∀ ref, position.bind Position.key? = some ref → ref = loser := by
    rintro ref href
    obtain rfl | hloser := hposition
    · simp at href
    · exact Option.some.inj (href.symm.trans hloser)
  constructor
  case start =>
    rintro rfl
    simp [Position.key?] at hposition
  case finish =>
    rintro rfl
    simp [Position.key?] at hposition
  case before =>
    rintro ref rfl _ hlive
    simp [hbeside ref rfl, hgone] at hlive
  case after =>
    rintro ref rfl _ hlive
    simp [hbeside ref rfl, hgone] at hlive
  case loser =>
    intro ref href _
    rwa [hbeside ref href]
  case nowhere => exact fun ref href _ hnot => absurd (hbeside ref href ▸ hself) hnot
  case stays => exact fun _ hlive => absurd hlive (by simp [hdead])
  case replaces =>
    intro _ other hother
    rwa [(hevicts other).mp hother]
  case last => exact fun _ _ hnot => absurd hself (hnot loser)

/-! ## Insertions -/

/-- Where one key gives way, the order changes in its place, or the new key is put among the others. -/
theorem order_evict {front rest : List Text} (hsplit : t.order = front ++ loser :: rest) (hfront : loser ∉ front)
    (p : Param) (position : Option Position) :
    ((position = none ∨ position.bind Position.key? = some loser) ∧
        (t.evict loser p position false).order = front ++ p.key :: rest) ∨
      (position ≠ none ∧ position.bind Position.key? ≠ some loser ∧
        (t.evict loser p position false).order = placeKey p.key position true (front ++ rest)) := by
  have hidx : t.order.idxOf loser = front.length := idxOf_of_split hsplit hfront
  have hset : t.order.set front.length p.key = front ++ p.key :: rest := by
    rw [hsplit, List.set_append_right _ _ (Nat.le_refl _), Nat.sub_self, List.set_cons_zero]
  have herase : t.order.eraseIdx front.length = front ++ rest := by
    rw [hsplit, List.eraseIdx_append_of_length_le (Nat.le_refl _), Nat.sub_self, List.eraseIdx_cons_zero]
  by_cases hbeside : position.bind Position.key? = some loser
  · exact Or.inl ⟨Or.inr hbeside, by simp [evict, hbeside, hidx, hset]⟩
  · cases position with
    | none => exact Or.inl ⟨Or.inl rfl, by simp [evict, hidx, hset]⟩
    | some place =>
      have hbeside' : place.key? ≠ some loser := hbeside
      exact Or.inr ⟨by simp, hbeside, by simp [evict, hbeside', hidx, herase]⟩

/-- A key that stands alone is put among the others, which stay as they are. -/
theorem keepsOthers_and_standsAt_of_alone (ht : t.Ordered) (hover : t.override? key = none) {isNew : Bool}
    (hnew : t.isLive key = !isNew) (hget : ∀ other ≠ key, Keyed.get? other u.live = Keyed.get? other t.live)
    (hlive : u.isLive key = true) (horder : u.order = placeKey key position isNew t.order) :
    t.KeepsOthers u key ∧ t.StandsAt u key position := by
  have hnone := not_evicts_of_alone hover
  have hothers : ∀ k ≠ key, u.isLive k = t.isLive k := by
    intro k hne
    rw [isLive, isLive, Keyed.has, Keyed.has, hget k hne]
  have hall : ∀ k ∈ t.order, u.isLive k = true := by
    intro k hk
    by_cases hne : k = key
    · rwa [hne]
    · rw [hothers k hne]
      exact (ht.mem_iff k).mp hk
  constructor
  · refine ⟨fun other hne _ => hget other hne, fun other h => absurd h (hnone other), ?_⟩
    rw [besides_filter hall, horder, besides_placeKey]
  · refine standsAt_placeKey horder (fun k hne => ?_) hnew (fun hold => ⟨rfl, ?_⟩) (fun _ => hnone) fun ref _ => hnone ref
    · rw [hothers k hne, ht.mem_iff]
    · rw [ht.mem_iff, hnew, hold]
      rfl

/-- The keys in front of one and behind it are the other live keys. -/
theorem Ordered.mem_append_iff (ht : t.Ordered) {front rest : List Text} (hsplit : t.order = front ++ loser :: rest)
    (k : Text) : k ∈ front ++ rest ↔ k ≠ loser ∧ t.isLive k = true := by
  have hperm : t.order.Perm (loser :: (front ++ rest)) := hsplit ▸ List.perm_middle
  have hrest : loser ∉ front ++ rest := (List.nodup_cons.mp (hperm.nodup_iff.mp ht.nodup)).1
  rw [← ht.mem_iff, hperm.mem_iff, List.mem_cons]
  by_cases hk : k = loser
  · simp [hk, hrest]
  · simp [hk]

theorem isLive_evict_self {p : Param} (hne : loser ≠ p.key) (position : Option Position) :
    (t.evict loser p position false).isLive loser = false := by
  rw [Bool.eq_false_iff, Ne, isLive_evict]
  simp [hne]

/-- Of the keys of an order all are still live but the one that has given way. -/
theorem Ordered.filter_isLive_evict (ht : t.Ordered) {p : Param} (hne : loser ≠ p.key) {front rest : List Text}
    (hsplit : t.order = front ++ loser :: rest) (position : Option Position) :
    t.order.filter (t.evict loser p position false).isLive = front ++ rest := by
  have hlive : ∀ k ∈ front ++ rest, (t.evict loser p position false).isLive k = true := fun k hk =>
    (isLive_evict _ _ _ _ _ _).mpr (Or.inr ((ht.mem_append_iff hsplit k).mp hk))
  have hboth := List.filter_eq_self.mpr hlive
  rw [List.filter_append] at hboth
  have hgone := isLive_evict_self (t := t) hne position
  rw [hsplit, List.filter_append, List.filter_cons_of_neg (by simp [hgone]), hboth]

/-- A key with priority over a live one takes its place or is put among the others, and they stay as they are. -/
theorem keepsOthers_and_standsAt_evict (ht : t.Consistent) (hdisjoint : t.chains.Pairwise List.Disjoint) {p : Param}
    (hover : t.override? p.key = some (.overrides loser)) :
    t.KeepsOthers (t.evict loser p position false) p.key ∧
      t.StandsAt (t.evict loser p position false) p.key position := by
  have hevicts := ht.evicts_iff hdisjoint hover
  have hdead := ht.isLive_of_overrides hover
  obtain ⟨hloser, hne, -⟩ := override?_eq_overrides hover
  obtain ⟨front, rest, hsplit, hfront⟩ := List.eq_append_cons_of_mem ((ht.ordered.mem_iff loser).mpr hloser)
  have hothers := ht.ordered.mem_append_iff hsplit
  have hgone : (t.evict loser p position false).isLive loser = false := isLive_evict_self hne position
  have hkept := ht.ordered.filter_isLive_evict hne hsplit position
  have hkeeps : besides p.key (t.evict loser p position false).order = besides p.key (front ++ rest) →
      t.KeepsOthers (t.evict loser p position false) p.key := by
    refine fun horder => ⟨fun other hother hnot => ?_, fun other hother => ?_, hkept.symm ▸ horder⟩
    · have hstays : loser ≠ other := fun heq => hnot ((hevicts other).mpr heq.symm)
      simp [evict, Ne.symm hother, hstays]
    · rwa [(hevicts other).mp hother]
  obtain ⟨hposition, horder⟩ | ⟨hposition, hbeside, horder⟩ := order_evict hsplit hfront p position
  · refine ⟨hkeeps (by simp [horder, besides]), standsAt_loser ?_ hevicts hdead hgone hposition⟩
    have hidx : t.order.idxOf loser = front.length := idxOf_of_split hsplit hfront
    simp [horder, hidx]
  · refine ⟨hkeeps (by rw [horder, besides_placeKey]), standsAt_placeKey horder ?_ hdead (by simp) ?_ ?_⟩
    · intro k hk
      rw [isLive_evict, hothers]
      simp [hk]
    · exact fun hnone => absurd hnone hposition
    · exact fun ref href hevicted => hbeside ((hevicts ref).mp hevicted ▸ href)

/-- What a registration does that is answered with true: it keeps the others, and its key stands at its position. -/
theorem keepsOthers_and_standsAt_register (ht : t.Consistent) (hdisjoint : t.chains.Pairwise List.Disjoint)
    {r : Registration} (hinitial : r.initial = false) (h : (t.register r).1 = true) :
    t.KeepsOthers (t.register r).2 (t.paramOf r).key ∧
      t.StandsAt (t.register r).2 (t.paramOf r).key r.position := by
  obtain ⟨-, hrun⟩ | ⟨hover, hnew, hrun⟩ | ⟨old, hover, hold, hrun⟩ | ⟨winner, -, hrun⟩ | ⟨loser, hover, hrun⟩ :=
    t.register_cases r
  · simp [hrun] at h
  · have hdead : t.isLive (t.paramOf r).key = !true := by simp [isLive, Keyed.has, hnew]
    rw [hrun]
    exact keepsOthers_and_standsAt_of_alone ht.ordered hover hdead
      (fun other hne => Keyed.get?_put_of_ne (Ne.symm hne) _ _) ((isLive_addNew _ _ _ _).mpr (Or.inl rfl)) rfl
  · have hlive : t.isLive (t.paramOf r).key = !false := isLive_iff.mpr ⟨old, hold⟩
    rw [hrun, hinitial]
    exact keepsOthers_and_standsAt_of_alone ht.ordered hover hlive
      (fun other hne => Keyed.get?_put_of_ne (Ne.symm hne) _ _) ((isLive_replaceLive _ _ _ _ _ _).mpr (Or.inl rfl))
      (order_replaceLive _ _ _ _)
  · simp [hrun] at h
  · rw [hrun, hinitial]
    exact keepsOthers_and_standsAt_evict ht hdisjoint hover

/-- In a table that was made of seeds and chains that do not meet, after whatever calls, an insertion under a key of
one's own that is answered with true disturbs no other key, but for the one that gives way: all others keep their
parameters with their records and sources, and their order. The key stands where the position says. -/
theorem keepsOthers_and_standsAt_insert {seeds hierarchies : Value} {chains : List (List Text)} {t : ParamTable}
    (hchains : readChains hierarchies = .ok chains) (hdisjoint : chains.Pairwise List.Disjoint)
    (h : ofValues seeds hierarchies = .ok t) (edits : List Edit) {key : Text} (hkey : Text.trim key ≠ [])
    {value position : Value} {overwrite : Bool} {u : ParamTable}
    (hinsert : (t.run edits).insert (.text key) value overwrite position = .ok (true, u)) :
    (t.run edits).KeepsOthers u (Text.trim key) ∧
      ∃ place, Position.ofValue position = .ok place ∧ (t.run edits).StandsAt u (Text.trim key) place := by
  have hreached := reached_run_of_ofValues hchains h edits
  have hkept : (t.run edits).chains.Pairwise List.Disjoint := hreached.chains_eq.symm ▸ hdisjoint
  obtain ⟨k, v, place, hk, rfl, hplace, hresult⟩ := insert_eq_ok hinsert
  obtain rfl : key = k := by simpa using hk
  let r : Registration := { key, value := v, overwrite, position := place }
  have hanswer : ((t.run edits).register r).1 = true := (congrArg Prod.fst hresult).symm
  have hu : u = ((t.run edits).register r).2 := congrArg Prod.snd hresult
  have hparam : ((t.run edits).paramOf r).key = Text.trim key := by rw [paramOf_of_named hkey]
  have hboth := keepsOthers_and_standsAt_register (hreached.consistent hdisjoint) hkept (r := r) rfl hanswer
  rw [hparam, ← hu] at hboth
  exact ⟨hboth.1, place, hplace, hboth.2⟩

/-- A key with priority over another one, which gives way, is put behind a third one. -/
theorem keepsOthers_and_standsAt_insert_behind :
    ∃ t u, t = (empty pairedChains).run [insertEmpty ['a'], insertEmpty ['x'], insertEmpty ['y']] ∧
      t.insert (.text ['b', ' ']) (.text ['1']) true (.record [("after".toList, .text ['x'])]) = .ok (true, u) ∧
      t.order = [['a'], ['x'], ['y']] ∧ u.order = [['x'], ['b'], ['y']] ∧
      t.KeepsOthers u ['b'] ∧ t.StandsAt u ['b'] (some (.after ['x'])) := by
  have hread : readChains (chainsValue pairedChains) = .ok pairedChains := rfl
  have hdisjoint : pairedChains.Pairwise List.Disjoint := by simp [pairedChains, List.Disjoint]
  have hmade : ofValues (.list []) (chainsValue pairedChains) = .ok (empty pairedChains) := rfl
  have hkey : Text.trim ['b', ' '] ≠ [] := by decide
  obtain ⟨u, hinsert, horder⟩ : ∃ u, ((empty pairedChains).run [insertEmpty ['a'], insertEmpty ['x'],
      insertEmpty ['y']]).insert (.text ['b', ' ']) (.text ['1']) true (.record [("after".toList, .text ['x'])]) =
        .ok (true, u) ∧ u.order = [['x'], ['b'], ['y']] := ⟨_, rfl, rfl⟩
  obtain ⟨hkeeps, place, hplace, hstands⟩ := keepsOthers_and_standsAt_insert hread hdisjoint hmade _ hkey hinsert
  obtain rfl : some (.after ['x']) = place := Except.ok.inj hplace
  exact ⟨_, u, rfl, hinsert, rfl, horder, hkeeps, hstands⟩

end PageMarkup.ParamTable
