import Mathlib.Data.List.InsertIdx
import Mathlib.Data.List.Perm.Basic
import PageMarkup.Proofs.Outcome
import PageMarkup.Proofs.Param.Keys

/-!
# The order of a table

The order of a table and its live keys are kept apart and changed apart. They agree as long as the order lists every
live key once and nothing else (`ParamTable.Ordered`): then every key in the order has its parameter, and every
parameter is written once (`ParamTable.Ordered.inOrder_perm`). Each change of a table keeps the agreement, but for one:
a key that takes the place of another must not be live already.
-/
namespace PageMarkup.ParamTable

/-! ## Live keys -/

theorem isLive_iff {t : ParamTable} {key : Text} : t.isLive key = true ↔ ∃ p, Keyed.get? key t.live = some p := by
  rw [isLive, Keyed.has, Option.isSome_iff_exists]

theorem isLive_iff_mem_keys {t : ParamTable} {key : Text} : t.isLive key = true ↔ key ∈ Keyed.keys t.live := by
  rw [isLive, Keyed.has, ← not_iff_not, ← Keyed.get?_eq_none_iff]
  simp

theorem isLive_of_mem {t : ParamTable} {entry : Text × Param} (h : entry ∈ t.live) : t.isLive entry.1 = true :=
  isLive_iff_mem_keys.mpr (List.mem_map_of_mem h)

/-- A key is live in a table that has one entry in its place, or one entry more. -/
theorem isLive_iff_of_get? {t u : ParamTable} {own key : Text} {p : Param}
    (h : Keyed.get? key u.live = if own = key then some p else Keyed.get? key t.live) :
    u.isLive key = true ↔ key = own ∨ t.isLive key = true := by
  rw [isLive, Keyed.has, h]
  by_cases hkey : own = key
  · simp [hkey]
  · simp [hkey, Ne.symm hkey, isLive, Keyed.has]

@[simp] theorem isLive_empty (chains : List (List Text)) (key : Text) : (empty chains).isLive key = false := rfl

@[simp] theorem isLive_addNew (t : ParamTable) (p : Param) (position : Option Position) (key : Text) :
    (t.addNew p position).isLive key = true ↔ key = p.key ∨ t.isLive key = true := by
  by_cases h : p.key = key
  · simp [addNew, isLive, Keyed.has, h]
  · simp [addNew, isLive, Keyed.has, h, Ne.symm h]

@[simp] theorem isLive_replaceLive (t : ParamTable) (old p : Param) (position : Option Position) (initial : Bool)
    (key : Text) :
    (t.replaceLive old p position initial).isLive key = true ↔ key = p.key ∨ t.isLive key = true := by
  unfold replaceLive
  by_cases h : p.key = key
  · split <;> simp [isLive, Keyed.has, h]
  · split <;> simp [isLive, Keyed.has, h, Ne.symm h]

@[simp] theorem isLive_recordBeside (t : ParamTable) (live : Text) (p : Param) (initial : Bool) (key : Text) :
    (t.recordBeside live p initial).isLive key = true ↔ t.isLive key = true := by
  unfold recordBeside
  split
  · rename_i winner hwinner
    by_cases h : live = key
    · subst h
      simp [isLive, Keyed.has, hwinner]
    · simp [isLive, Keyed.has, h]
  · rfl

@[simp] theorem isLive_evict (t : ParamTable) (loser : Text) (p : Param) (position : Option Position)
    (initial : Bool) (key : Text) :
    (t.evict loser p position initial).isLive key = true ↔ key = p.key ∨ (key ≠ loser ∧ t.isLive key = true) := by
  by_cases h : p.key = key
  · simp [evict, isLive, Keyed.has, h]
  · by_cases hl : loser = key
    · subst hl
      simp [evict, isLive, Keyed.has, h, Ne.symm h]
    · simp [evict, isLive, Keyed.has, h, hl, Ne.symm h, Ne.symm hl]

@[simp] theorem isLive_erase (t : ParamTable) (erased key : Text) :
    (t.erase erased).isLive key = true ↔ key ≠ erased ∧ t.isLive key = true := by
  by_cases h : erased = key
  · simp [erase, isLive, Keyed.has, h]
  · simp [erase, isLive, Keyed.has, h, Ne.symm h]

/-! ## Placing a key -/

/-- The order without a key. -/
def besides (key : Text) (order : List Text) : List Text := order.filter fun k => !decide (k = key)

theorem notMem_besides (key : Text) (order : List Text) : key ∉ besides key order := by simp [besides]

theorem besides_of_notMem {key : Text} {order : List Text} (h : key ∉ order) : besides key order = order := by
  refine List.filter_eq_self.mpr fun k hk => ?_
  have hne : k ≠ key := fun heq => h (heq ▸ hk)
  simp [hne]

/-- A key is put among the others, or stays where it is. -/
theorem placeKey_cases (key : Text) (position : Option Position) (isNew : Bool) (order : List Text) :
    placeKey key position isNew order = (if isNew then order ++ [key] else order) ∨
      (placeKey key position isNew order).Perm (key :: besides key order) := by
  have hinsert : ∀ {i : Nat} {others : List Text}, i ≤ others.length → (others.insertIdx i key).Perm (key :: others) :=
    fun hi => List.perm_insertIdx key _ hi
  have hidx : ∀ {ref : Text} {others : List Text}, others.contains ref = true → others.idxOf ref < others.length :=
    fun href => List.idxOf_lt_length_iff.mpr (by simpa using href)
  unfold placeKey
  dsimp only
  split
  · exact Or.inl rfl
  · exact Or.inr (List.Perm.refl _)
  · exact Or.inr List.perm_append_comm
  · split
    · rename_i h
      exact Or.inr (hinsert (Nat.le_of_lt (hidx (Bool.and_eq_true_iff.mp h).2)))
    · exact Or.inl rfl
  · split
    · rename_i h
      exact Or.inr (hinsert (hidx (Bool.and_eq_true_iff.mp h).2))
    · exact Or.inl rfl

theorem placeKey_new_perm {key : Text} {order : List Text} (h : key ∉ order) (position : Option Position) :
    (placeKey key position true order).Perm (key :: order) := by
  obtain hplaced | hplaced := placeKey_cases key position true order
  · rw [hplaced]
    exact List.perm_append_comm
  · rwa [besides_of_notMem h] at hplaced

theorem placeKey_old_perm {key : Text} {order : List Text} (hnodup : order.Nodup) (h : key ∈ order)
    (position : Option Position) : (placeKey key position false order).Perm order := by
  obtain hplaced | hplaced := placeKey_cases key position false order
  · rw [hplaced]
    exact List.Perm.refl _
  · have hothers : besides key order = order.erase key := by
      rw [besides, hnodup.erase_eq_filter]
      exact List.filter_congr fun k _ => by simp [bne, Bool.beq_eq_decide_eq]
    rw [hothers] at hplaced
    exact hplaced.trans (List.perm_cons_erase h).symm

/-! ## Agreement of the order with the live keys -/

/-- The order lists every live key once, and nothing else. -/
structure Ordered (t : ParamTable) : Prop where
  nodup : t.order.Nodup
  mem_iff : ∀ key, key ∈ t.order ↔ t.isLive key = true

/-- An order that consists of a key and the order before agrees with live keys that do. -/
theorem Ordered.of_perm_cons {u : ParamTable} {key : Text} {rest : List Text} (hperm : u.order.Perm (key :: rest))
    (hnodup : rest.Nodup) (hkey : key ∉ rest) (hmem : ∀ other, u.isLive other = true ↔ other = key ∨ other ∈ rest) :
    u.Ordered where
  nodup := hperm.nodup_iff.mpr (List.nodup_cons.mpr ⟨hkey, hnodup⟩)
  mem_iff other := by rw [hperm.mem_iff, List.mem_cons, hmem]

theorem ordered_empty (chains : List (List Text)) : (empty chains).Ordered where
  nodup := List.nodup_nil
  mem_iff key := by simp [empty, isLive, Keyed.has, Keyed.get?]

theorem Ordered.addNew {t : ParamTable} (ht : t.Ordered) {p : Param} (hnew : t.isLive p.key = false)
    (position : Option Position) : (t.addNew p position).Ordered := by
  have hkey : p.key ∉ t.order := fun hmem => by simp [(ht.mem_iff p.key).mp hmem] at hnew
  refine Ordered.of_perm_cons (placeKey_new_perm hkey position) ht.nodup hkey fun other => ?_
  rw [isLive_addNew, ht.mem_iff]

theorem Ordered.replaceLive {t : ParamTable} (ht : t.Ordered) {p : Param} (hlive : t.isLive p.key = true)
    (old : Param) (position : Option Position) (initial : Bool) :
    (t.replaceLive old p position initial).Ordered := by
  have hkey : p.key ∈ t.order := (ht.mem_iff p.key).mpr hlive
  have hperm : (t.replaceLive old p position initial).order.Perm t.order := by
    unfold ParamTable.replaceLive
    split
    · exact List.perm_append_comm.trans (List.perm_cons_erase hkey).symm
    · dsimp only
      split
      · exact placeKey_old_perm ht.nodup hkey position
      · exact List.Perm.refl _
  refine ⟨hperm.nodup_iff.mpr ht.nodup, fun other => ?_⟩
  rw [hperm.mem_iff, isLive_replaceLive, ht.mem_iff]
  exact ⟨Or.inr, fun h => h.elim (fun heq => heq ▸ hlive) id⟩

theorem Ordered.recordBeside {t : ParamTable} (ht : t.Ordered) (live : Text) (p : Param) (initial : Bool) :
    (t.recordBeside live p initial).Ordered := by
  have horder : (t.recordBeside live p initial).order = t.order := by
    unfold ParamTable.recordBeside
    split <;> rfl
  exact ⟨horder ▸ ht.nodup, fun other => by rw [horder, isLive_recordBeside, ht.mem_iff]⟩

/-- The order with a new key in place of a live one. -/
theorem order_evict_perm {t : ParamTable} {loser : Text} {p : Param} (hloser : loser ∈ t.order)
    (hkey : p.key ∉ t.order) (position : Option Position) (initial : Bool) :
    (t.evict loser p position initial).order.Perm (p.key :: t.order.erase loser) := by
  have herase : t.order.erase loser = t.order.eraseIdx (t.order.idxOf loser) := List.erase_eq_eraseIdx_of_idxOf rfl
  have hrest : p.key ∉ t.order.eraseIdx (t.order.idxOf loser) := fun hmem => hkey (List.mem_of_mem_eraseIdx hmem)
  rw [herase]
  simp only [evict]
  generalize (if position.bind Position.key? = some loser then none else position) = placed
  split
  · exact placeKey_new_perm hrest placed
  · exact List.set_perm_cons_eraseIdx (List.idxOf_lt_length_iff.mpr hloser) p.key

/-- A key that is not live takes the place of a live one. -/
theorem Ordered.evict {t : ParamTable} (ht : t.Ordered) {loser : Text} {p : Param}
    (hloser : t.isLive loser = true) (hnew : t.isLive p.key = false) (position : Option Position) (initial : Bool) :
    (t.evict loser p position initial).Ordered := by
  have hkey : p.key ∉ t.order := fun hmem => by simp [(ht.mem_iff p.key).mp hmem] at hnew
  have hperm := order_evict_perm ((ht.mem_iff loser).mpr hloser) hkey position initial
  refine Ordered.of_perm_cons hperm (ht.nodup.erase loser) (fun hmem => hkey (List.mem_of_mem_erase hmem))
    fun other => ?_
  rw [isLive_evict, ht.nodup.mem_erase_iff, ht.mem_iff]

theorem Ordered.erase {t : ParamTable} (ht : t.Ordered) (key : Text) : (t.erase key).Ordered where
  nodup := ht.nodup.erase key
  mem_iff other := by
    rw [isLive_erase, ← ht.mem_iff]
    exact ht.nodup.mem_erase_iff

/-! ## Parameters in order -/

/-- Every key in the order has its parameter. -/
theorem Ordered.exists_inOrder {t : ParamTable} (ht : t.Ordered) :
    ∃ params, t.inOrder = .ok params ∧
      List.Forall₂ (fun key p => Keyed.get? key t.live = some p) t.order params := by
  have hparam : ∀ key ∈ t.order, ∃ p, t.paramAt key = .ok p := by
    intro key hkey
    obtain ⟨p, hp⟩ := isLive_iff.mp ((ht.mem_iff key).mp hkey)
    exact ⟨p, by rw [paramAt, hp]⟩
  obtain ⟨params, hparams⟩ := Outcome.exists_mapM_eq_ok hparam
  refine ⟨params, hparams, (Outcome.mapM_eq_ok.mp hparams).imp fun key p hp => ?_⟩
  unfold paramAt at hp
  split at hp
  · rename_i q hq
    rw [hq, Except.ok.inj hp]
  · simp at hp

/-- The keys of a table are its order, rearranged. -/
theorem Ordered.order_perm_keys {t : ParamTable} (ht : t.Ordered) (hkeys : t.DistinctKeys) :
    t.order.Perm (Keyed.keys t.live) :=
  (List.perm_ext_iff_of_nodup ht.nodup hkeys).mpr fun key => by rw [ht.mem_iff, isLive_iff_mem_keys]

/-- The parameters in order are the live ones, each once. -/
theorem Ordered.exists_inOrder_perm {t : ParamTable} (ht : t.Ordered) (hkeys : t.DistinctKeys) :
    ∃ params, t.inOrder = .ok params ∧ params.Perm (t.live.map Prod.snd) := by
  have hfilter : ∀ {keys : List Text} {params : List Param},
      List.Forall₂ (fun key p => Keyed.get? key t.live = some p) keys params →
      keys.filterMap (fun key => Keyed.get? key t.live) = params := by
    intro keys params h
    induction h with
    | nil => rfl
    | cons hp _ ih => simp [hp, ih]
  obtain ⟨params, hparams, hall⟩ := ht.exists_inOrder
  have hlive : List.Forall₂ (fun key p => Keyed.get? key t.live = some p) (Keyed.keys t.live)
      (t.live.map Prod.snd) := by
    rw [Keyed.keys, List.forall₂_map_left_iff, List.forall₂_map_right_iff, List.forall₂_same]
    exact fun entry hentry => Keyed.get?_of_mem hkeys hentry
  refine ⟨params, hparams, ?_⟩
  rw [← hfilter hall, ← hfilter hlive]
  exact (ht.order_perm_keys hkeys).filterMap _

end PageMarkup.ParamTable
