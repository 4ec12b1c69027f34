import PageMarkup.Proofs.Param.Insertions

/-!
# Insertions made twice

To insert a second time what was inserted before changes nothing. Where the key is put depends on the keys beside it
alone, so it is put where it is (`placeKey_placeKey`). What was registered is found as it was registered, in a group of
its own and at its place (`Settled`), and what went on record is on record.
-/
namespace PageMarkup.ParamTable

/-! ## Places -/

theorem besides_append_self (key : Text) (order : List Text) : besides key (order ++ [key]) = besides key order := by
  simp [besides]

theorem besides_insertIdx {key : Text} {order : List Text} (h : key ∉ order) (i : Nat) :
    besides key (order.insertIdx i key) = order := by
  induction order generalizing i with
  | nil => cases i <;> simp [besides]
  | cons k order ih =>
    have hk : k ≠ key := fun heq => h (heq ▸ List.mem_cons_self)
    have hrest : key ∉ order := fun hmem => h (List.mem_cons_of_mem k hmem)
    cases i with
    | zero => simpa [besides] using besides_of_notMem h
    | succ i => simpa [besides, hk] using ih hrest i

/-- A key is put among the keys beside it, wherever it was itself, or it has no place among them. -/
theorem placeKey_cases_besides {key : Text} {others : List Text} (h : key ∉ others) (position : Option Position) :
    (∃ placed, besides key placed = others ∧
      ∀ isNew order, besides key order = others → placeKey key position isNew order = placed) ∨
    ∀ isNew order, besides key order = others →
      placeKey key position isNew order = if isNew then order ++ [key] else order := by
  cases position with
  | none => exact Or.inr fun isNew order _ => rfl
  | some place =>
    cases place with
    | start => exact Or.inl ⟨key :: others, besides_insertIdx h 0, by rintro isNew order rfl; rfl⟩
    | finish =>
      refine Or.inl ⟨others ++ [key], ?_, by rintro isNew order rfl; rfl⟩
      rw [besides_append_self, besides_of_notMem h]
    | before ref =>
      by_cases href : (ref ≠ key && others.contains ref) = true
      · exact Or.inl ⟨_, besides_insertIdx h (others.idxOf ref), by rintro isNew order rfl; exact if_pos href⟩
      · exact Or.inr (by rintro isNew order rfl; exact if_neg href)
    | after ref =>
      by_cases href : (ref ≠ key && others.contains ref) = true
      · exact Or.inl ⟨_, besides_insertIdx h (others.idxOf ref + 1), by rintro isNew order rfl; exact if_pos href⟩
      · exact Or.inr (by rintro isNew order rfl; exact if_neg href)

/-- A key that was put somewhere is left there by putting it there again. -/
theorem placeKey_placeKey (key : Text) (position : Option Position) (isNew : Bool) (order : List Text) :
    placeKey key position false (placeKey key position isNew order) = placeKey key position isNew order := by
  obtain ⟨placed, hplaced, h⟩ | h := placeKey_cases_besides (notMem_besides key order) position
  · rw [h isNew order rfl, h false placed hplaced]
  · have hothers : besides key (if isNew then order ++ [key] else order) = besides key order := by
      split
      · exact besides_append_self key order
      · rfl
    rw [h isNew order rfl, h false _ hothers]
    rfl

/-- Beside itself, and beside a key that is not there, a key has no place: a new one comes last, and another one stays
where it is. -/
theorem placeKey_of_nowhere {key ref : Text} {position : Option Position}
    (hposition : position.bind Position.key? = some ref) (isNew : Bool) {order : List Text}
    (href : ref = key ∨ ref ∉ order) :
    placeKey key position isNew order = if isNew then order ++ [key] else order := by
  have hnone : ¬ (ref ≠ key && (besides key order).contains ref) = true := by
    intro h
    obtain ⟨hne, hmem⟩ := Bool.and_eq_true_iff.mp h
    obtain hself | hgone := href
    · simp [hself] at hne
    · exact hgone (List.mem_of_mem_filter (List.contains_iff_mem.mp hmem))
  obtain ⟨place, rfl, hkey⟩ := Option.bind_eq_some_iff.mp hposition
  cases place with
  | start => simp [Position.key?] at hkey
  | finish => simp [Position.key?] at hkey
  | before other =>
    obtain rfl : other = ref := Option.some.inj hkey
    exact if_neg hnone
  | after other =>
    obtain rfl : other = ref := Option.some.inj hkey
    exact if_neg hnone

/-! ## Settled registrations -/

/-- Whether a table has what a registration asks for: the parameter is live, up to the record beside it and the text
that it was read from, no other key of its chain is live, and the key is where it is to be put. -/
structure Settled (t : ParamTable) (r : Registration) : Prop where
  alone : t.override? (t.paramOf r).key = none
  held : ∃ superseded source, Keyed.get? (t.paramOf r).key t.live = some { t.paramOf r with superseded, source }
  placed : placeKey (t.paramOf r).key r.position false t.order = t.order

/-- A registration that is settled changes nothing. -/
theorem Settled.register_eq {t : ParamTable} {r : Registration} (h : t.Settled r) (hmust : r.mustExist = false)
    (hinitial : r.initial = false) : t.register r = (r.overwrite, t) := by
  obtain ⟨superseded, source, hheld⟩ := h.held
  have hreplace : t.replaceLive { t.paramOf r with superseded, source } (t.paramOf r) r.position false = t := by
    have horder : (if r.position.isSome then placeKey (t.paramOf r).key r.position false t.order else t.order) =
        t.order := by
      rw [h.placed, ite_self]
    simp [replaceLive, Keyed.put_self hheld, horder]
  cases hwrite : r.overwrite <;> simp [register, hmust, h.alone, hheld, hinitial, hwrite, hreplace]

/-- No other key of its chain is live beside a live key. -/
theorem Consistent.override?_eq_none {t : ParamTable} (ht : t.Consistent) {key : Text} (hlive : t.isLive key = true) :
    t.override? key = none := by
  refine override?_eq_none_iff.mpr fun chain hchain other hother hne => ?_
  obtain ⟨hmem, hkey⟩ := mem_of_decidingChain? hchain
  rw [Bool.eq_false_iff]
  exact fun hotherlive => hne (ht.alone other key hotherlive hlive (Or.inr ⟨chain, hmem, hother, hkey⟩))

/-- The order of a table with a parameter in place of another one is that with the key put at its position. -/
theorem order_replaceLive (t : ParamTable) (old p : Param) (position : Option Position) :
    (t.replaceLive old p position false).order = placeKey p.key position false t.order := by
  cases position <;> rfl

/-- A key that took the place of another one is left there by putting it there again. -/
theorem placeKey_order_evict {t : ParamTable} {loser : Text} {p : Param} {position : Option Position}
    (hgone : loser ∉ (t.evict loser p position false).order) :
    placeKey p.key position false (t.evict loser p position false).order =
      (t.evict loser p position false).order := by
  by_cases hbeside : position.bind Position.key? = some loser
  · exact placeKey_of_nowhere hbeside false (Or.inr hgone)
  · have horder : (t.evict loser p position false).order =
        if position.isSome then placeKey p.key position true (t.order.eraseIdx (t.order.idxOf loser))
        else t.order.set (t.order.idxOf loser) p.key := by
      simp [evict, hbeside]
    rw [horder]
    split
    · exact placeKey_placeKey _ _ _ _
    · rename_i hnone
      rw [Option.not_isSome_iff_eq_none.mp hnone]
      rfl

/-- What is registered with the answer that it is live is settled. -/
theorem settled_register {chains : List (List Text)} (hdisjoint : chains.Pairwise List.Disjoint) {t : ParamTable}
    (ht : Reached chains t) {r : Registration} (hkey : Text.trim r.key ≠ []) (hinitial : r.initial = false)
    (h : (t.register r).1 = true) : (t.register r).2.Settled r := by
  have hafter := (ht.register r).consistent hdisjoint
  have hparam : (t.register r).2.paramOf r = t.paramOf r := by rw [paramOf_of_named hkey, paramOf_of_named hkey]
  obtain ⟨superseded, source, hheld⟩ := get?_register_of_true h
  constructor <;> rw [hparam]
  case alone => exact hafter.override?_eq_none (isLive_iff.mpr ⟨_, hheld⟩)
  case held => exact ⟨superseded, source, hheld⟩
  case placed =>
    obtain ⟨-, hrun⟩ | ⟨-, -, hrun⟩ | ⟨old, -, -, hrun⟩ | ⟨winner, -, hrun⟩ | ⟨loser, hover, hrun⟩ := t.register_cases r
    · simp [hrun] at h
    · rw [hrun]
      exact placeKey_placeKey _ _ _ _
    · rw [hrun, hinitial, order_replaceLive]
      exact placeKey_placeKey _ _ _ _
    · simp [hrun] at h
    · have hgone : loser ∉ (t.register r).2.order := by
        rw [hafter.ordered.mem_iff, hrun, isLive_evict]
        have hne := (override?_eq_overrides hover).2.1
        simp [hne]
      rw [hrun, hinitial] at hgone ⊢
      exact placeKey_order_evict hgone

/-! ## Records -/

theorem addSuperseded_addSuperseded (d : Superseded) (repeatable : Bool) (ds : List Superseded) :
    addSuperseded d false (addSuperseded d repeatable ds) = addSuperseded d repeatable ds := by
  have hmem : d ∈ addSuperseded d repeatable ds := by
    unfold addSuperseded
    split
    · simp
    · rename_i h
      simp only [Bool.or_eq_true, Bool.not_eq_true', not_or, Bool.not_eq_false, List.contains_iff_mem] at h
      exact h.2
  generalize addSuperseded d repeatable ds = records at hmem
  simp [addSuperseded, hmem]

/-- What is on record beside a live key is not put on record again. -/
theorem recordBeside_recordBeside (t : ParamTable) (winner : Text) (p : Param) :
    (t.recordBeside winner p false).recordBeside winner p false = t.recordBeside winner p false := by
  cases hwinner : Keyed.get? winner t.live with
  | none => simp [recordBeside, hwinner]
  | some old =>
    have hself := Keyed.put_self (Keyed.get?_put_self winner
      { old with superseded := addSuperseded p.asSuperseded false old.superseded } t.live)
    simp [recordBeside, hwinner, addSuperseded_addSuperseded, hself]

theorem keys_recordBeside (t : ParamTable) (winner : Text) (p : Param) (initial : Bool) :
    Keyed.keys (t.recordBeside winner p initial).live = Keyed.keys t.live := by
  unfold recordBeside
  split
  · rename_i old hold
    exact Keyed.keys_put_of_mem (Keyed.mem_keys_of_get? hold) _
  · rfl

/-! ## Twice and once -/

/-- To register a second time what was registered before, under a key of its own, changes nothing, and if it may
overwrite, the answer is the same. -/
theorem register_register {chains : List (List Text)} (hdisjoint : chains.Pairwise List.Disjoint) {t : ParamTable}
    (ht : Reached chains t) {r : Registration} (hkey : Text.trim r.key ≠ []) (hmust : r.mustExist = false)
    (hinitial : r.initial = false) :
    ∃ again, (t.register r).2.register r = (again, (t.register r).2) ∧
      (r.overwrite = true → again = (t.register r).1) := by
  have hparam : ∀ u : ParamTable, u.paramOf r = t.paramOf r := fun u => by
    rw [paramOf_of_named hkey, paramOf_of_named hkey]
  cases hanswer : (t.register r).1 with
  | true => exact ⟨_, (settled_register hdisjoint ht hkey hinitial hanswer).register_eq hmust hinitial, id⟩
  | false =>
    obtain ⟨hrefuses, -⟩ | ⟨-, -, winner, hover, hrun⟩ :=
      register_of_false (ht.consistent hdisjoint) (ht.chains_eq.symm ▸ hdisjoint) hanswer
    · rw [register_of_refuses hrefuses]
      exact ⟨false, register_of_refuses hrefuses, fun _ => rfl⟩
    · rw [hinitial] at hrun
      have hagain : (t.register r).2.override? (t.paramOf r).key = some (.overridden winner) := by
        rw [hrun, override?_congr (keys_recordBeside _ _ _ _) (by rw [← hrun, chains_register]), hover]
      refine ⟨false, ?_, fun _ => rfl⟩
      rw [hrun] at hagain ⊢
      cases hwrite : r.overwrite <;>
        simp [register, hparam, hmust, hagain, hinitial, hwrite, recordBeside_recordBeside]

/-- In a table that was made of seeds and chains that do not meet, after whatever calls, to insert a text under a key
of its own a second time, at the same position, changes nothing: parameters with their records and sources, and their
order, are those that the first insertion left. If the insertion may overwrite, the second answer is the first one. -/
theorem insert_insert {seeds hierarchies : Value} {chains : List (List Text)} {t : ParamTable}
    (hchains : readChains hierarchies = .ok chains) (hdisjoint : chains.Pairwise List.Disjoint)
    (h : ofValues seeds hierarchies = .ok t) (edits : List Edit) {key : Text} (hkey : Text.trim key ≠ [])
    {position : Value} {place : Option Position} (hplace : Position.ofValue position = .ok place) (value : Text)
    (overwrite : Bool) :
    ∃ answer again u, (t.run edits).insert (.text key) (.text value) overwrite position = .ok (answer, u) ∧
      u.insert (.text key) (.text value) overwrite position = .ok (again, u) ∧
      (overwrite = true → again = answer) := by
  let r : Registration := { key, value, overwrite, position := place }
  have hinsert : ∀ u : ParamTable, u.insert (.text key) (.text value) overwrite position = .ok (u.register r) :=
    fun u => insert_of_named hkey hplace u value overwrite
  have hreached := reached_run_of_ofValues hchains h edits
  obtain ⟨again, hagain, hsame⟩ := register_register (r := r) hdisjoint hreached hkey rfl rfl
  exact ⟨_, again, _, hinsert _, (hinsert _).trans (congrArg Except.ok hagain), hsame⟩

/-- A key takes the place of another one, in front of which it is to be put. -/
theorem insert_insert_beforeLoser :
    ∃ answer u, ((empty pairedChains).run [insertEmpty ['a'], insertEmpty ['x']]).insert (.text ['b', ' '])
        (.text ['1']) true (.record [("before".toList, .text ['a'])]) = .ok (answer, u) ∧
      u.insert (.text ['b', ' ']) (.text ['1']) true (.record [("before".toList, .text ['a'])]) = .ok (answer, u) := by
  have hread : readChains (chainsValue pairedChains) = .ok pairedChains := rfl
  have hdisjoint : pairedChains.Pairwise List.Disjoint := by simp [pairedChains, List.Disjoint]
  have hmade : ofValues (.list []) (chainsValue pairedChains) = .ok (empty pairedChains) := rfl
  have hkey : Text.trim ['b', ' '] ≠ [] := by decide
  have hplace : Position.ofValue (.record [("before".toList, .text ['a'])]) = .ok (some (.before ['a'])) := rfl
  obtain ⟨answer, again, u, hfirst, hsecond, hsame⟩ :=
    insert_insert hread hdisjoint hmade [insertEmpty ['a'], insertEmpty ['x']] hkey hplace ['1'] true
  exact ⟨answer, u, hfirst, hsame rfl ▸ hsecond⟩

end PageMarkup.ParamTable
