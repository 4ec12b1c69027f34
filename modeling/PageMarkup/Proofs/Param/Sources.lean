import PageMarkup.Proofs.Param.Fits

/-!
# The texts that parameters were read from

In a table without chains a call adds a parameter, exchanges the one under its key or erases it, and leaves all others
alone. What it adds comes with no source, and what it exchanges keeps its source if neither its value nor its being
unnamed changes (`ParamTable.get?_after`). So a parameter whose key holds its value at every moment of a run is still
written as it was read (`ParamTable.source_run`), and no other source comes into a table than those that it began with
(`ParamTable.source_cases_run`).
-/
namespace PageMarkup.ParamTable

/-- Whether a parameter with the value of `p`, named or unnamed like `p`, is live under the key. -/
def Holds (t : ParamTable) (key : Text) (p : Param) : Prop :=
  ∃ q, Keyed.get? key t.live = some q ∧ q.value = p.value ∧ q.unnamed = p.unnamed

/-- Whether the key holds the value of `p` at every moment of a run: it is neither erased nor registered with another
value or another kind of key. -/
def HoldsThroughout (t : ParamTable) (edits : List Edit) (key : Text) (p : Param) : Prop :=
  ∀ before behind, edits = before ++ behind → (t.run before).Holds key p

theorem HoldsThroughout.tail {t : ParamTable} {edit : Edit} {edits : List Edit} {key : Text} {p : Param}
    (h : t.HoldsThroughout (edit :: edits) key p) : (t.after edit).HoldsThroughout edits key p := by
  rintro before behind rfl
  exact h (edit :: before) behind rfl

section

variable {t : ParamTable} {key : Text} {q : Param}

/-- What a parameter that is live after a call was before: nothing, then it has no source, or a parameter whose source
it keeps unless it has another value or another kind of key. -/
def Succeeds (t : ParamTable) (key : Text) (q : Param) : Prop :=
  (Keyed.get? key t.live = none ∧ q.source = .null) ∨
    ∃ old, Keyed.get? key t.live = some old ∧
      (q.source = old.source ∨ (q.source = .null ∧ ¬ (old.value = q.value ∧ old.unnamed = q.unnamed)))

theorem succeeds_of_get? (h : Keyed.get? key t.live = some q) : t.Succeeds key q := Or.inr ⟨q, h, Or.inl rfl⟩

theorem Succeeds.source_cases (h : t.Succeeds key q) :
    q.source = .null ∨ ∃ old, Keyed.get? key t.live = some old ∧ q.source = old.source := by
  obtain ⟨-, hnull⟩ | ⟨old, hold, hsource | ⟨hnull, -⟩⟩ := h
  · exact Or.inl hnull
  · exact Or.inr ⟨old, hold, hsource⟩
  · exact Or.inl hnull

theorem Succeeds.source_eq (h : t.Succeeds key q) {p : Param} (hp : Keyed.get? key t.live = some p)
    (hvalue : q.value = p.value) (hunnamed : q.unnamed = p.unnamed) : q.source = p.source := by
  obtain ⟨hnone, -⟩ | ⟨old, hold, hsource⟩ := h
  · simp [hnone] at hp
  · obtain rfl := Option.some.inj (hold.symm.trans hp)
    exact hsource.resolve_right fun hchanged => hchanged.2 ⟨hvalue.symm, hunnamed.symm⟩

theorem source_paramOf (t : ParamTable) (r : Registration) : (t.paramOf r).source = r.source := by
  by_cases h : Text.trim r.key = []
  · rw [paramOf_of_blank h]
  · rw [paramOf_of_named h]

/-- Where no key has priority over another, a registration adds a parameter or exchanges the one under its key. -/
theorem succeeds_register {r : Registration} (hchains : t.chains = []) (hinitial : r.initial = false)
    (hsource : r.source = .null) (h : Keyed.get? key (t.register r).2.live = some q) : t.Succeeds key q := by
  have halone : t.override? (t.paramOf r).key = none := by simp [override?, chainOf?, hchains]
  have hnull : (t.paramOf r).source = .null := (t.source_paramOf r).trans hsource
  obtain ⟨-, hrun⟩ | ⟨-, hnone, hrun⟩ | ⟨old, -, hold, hrun⟩ | ⟨live, hover, -⟩ | ⟨loser, hover, -⟩ :=
    t.register_cases r
  · rw [hrun] at h
    exact succeeds_of_get? h
  · rw [hrun] at h
    obtain ⟨rfl, rfl⟩ | hget := Keyed.get?_put_cases h
    · exact Or.inl ⟨hnone, hnull⟩
    · exact succeeds_of_get? hget
  · rw [hrun, replaceLive, hinitial, if_neg Bool.false_ne_true] at h
    obtain ⟨rfl, rfl⟩ | hget := Keyed.get?_put_cases h
    · refine Or.inr ⟨old, hold, ?_⟩
      dsimp only
      by_cases hsame : old.value = (t.paramOf r).value ∧ old.unnamed = (t.paramOf r).unnamed
      · exact Or.inl (by rw [if_pos (by simpa using hsame)])
      · exact Or.inr ⟨by rw [if_neg (by simpa using hsame), hnull], hsame⟩
    · exact succeeds_of_get? hget
  · simp [halone] at hover
  · simp [halone] at hover

/-- The parameters after a call, each by what it was before. -/
theorem get?_after (ht : Reached [] t) (edit : Edit) (h : Keyed.get? key (t.after edit).live = some q) :
    t.Succeeds key q := by
  unfold after at h
  split at h
  · rename_i answer u hcall
    have htrim : TrimmedChains t.chains := by simp [ht.chains_eq, TrimmedChains]
    obtain rfl | ⟨r, hinitial, hsource, rfl⟩ | ⟨erased, rfl⟩ := call_eq_ok htrim hcall
    · exact succeeds_of_get? h
    · exact succeeds_register ht.chains_eq hinitial hsource h
    · rw [erase, Keyed.get?_erase] at h
      split at h
      · simp at h
      · exact succeeds_of_get? h
  · exact succeeds_of_get? h

end

theorem Reached.after_of_no_chains {t : ParamTable} (ht : Reached [] t) (edit : Edit) : Reached [] (t.after edit) :=
  ht.after (by simp [TrimmedChains]) edit

theorem Reached.run_of_no_chains {t : ParamTable} (ht : Reached [] t) (edits : List Edit) : Reached [] (t.run edits) :=
  ht.run (by simp [TrimmedChains]) edits

/-- A parameter whose key holds its value throughout a run keeps its source. -/
theorem source_run {t : ParamTable} (ht : Reached [] t) {edits : List Edit} {key : Text} {p : Param}
    (hp : Keyed.get? key t.live = some p) (hheld : t.HoldsThroughout edits key p) :
    ∃ q, Keyed.get? key (t.run edits).live = some q ∧ q.source = p.source := by
  -- Of the parameter at hand only its value and its source matter, which stay the same from one call to the next.
  have hrun : ∀ (edits : List Edit) (t : ParamTable) (old : Param), Reached [] t → Keyed.get? key t.live = some old →
      old.value = p.value → old.unnamed = p.unnamed → t.HoldsThroughout edits key p →
      ∃ q, Keyed.get? key (t.run edits).live = some q ∧ q.source = old.source := by
    intro edits
    induction edits with
    | nil => exact fun t old _ hold _ _ _ => ⟨old, hold, rfl⟩
    | cons edit edits ih =>
      intro t old ht hold hvalue hunnamed hheld
      obtain ⟨next, hnext, hnextvalue, hnextunnamed⟩ := hheld [edit] edits rfl
      have hsource : next.source = old.source :=
        (get?_after ht edit hnext).source_eq hold (hnextvalue.trans hvalue.symm) (hnextunnamed.trans hunnamed.symm)
      obtain ⟨q, hq, hkept⟩ :=
        ih (t.after edit) next (ht.after_of_no_chains edit) hnext hnextvalue hnextunnamed hheld.tail
      exact ⟨q, hq, hkept.trans hsource⟩
  exact hrun edits t p ht hp rfl rfl hheld

/-- A source after a run is one that the parameter under the key began with. -/
theorem source_cases_run {t : ParamTable} (ht : Reached [] t) {edits : List Edit} {key : Text} {q : Param}
    (h : Keyed.get? key (t.run edits).live = some q) :
    q.source = .null ∨ ∃ p, Keyed.get? key t.live = some p ∧ q.source = p.source := by
  induction edits generalizing t with
  | nil => exact Or.inr ⟨q, h, rfl⟩
  | cons edit edits ih =>
    obtain hnull | ⟨next, hnext, hsource⟩ := ih (ht.after_of_no_chains edit) h
    · exact Or.inl hnull
    · rw [hsource]
      exact (get?_after ht edit hnext).source_cases

end PageMarkup.ParamTable
