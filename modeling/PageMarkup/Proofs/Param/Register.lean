import PageMarkup.Param.Table

/-!
# What a registration can do

`ParamTable.register` is the one way into a table. It refuses, or does exactly one of four things: it adds a key
that is not live, replaces the parameter under a live key, records the value beside a live key of priority, or
takes the place of a live key without priority. Every invariant of tables is read off these cases.
-/
namespace PageMarkup.ParamTable

/-- Why a registration is refused: it wants a live key and there is none, or it must not overwrite and there is
something to overwrite. -/
def Refuses (t : ParamTable) (r : Registration) : Prop :=
  (r.mustExist = true ∧ t.isLive (t.paramOf r).key = false) ∨
    (r.overwrite = false ∧ (t.override? (t.paramOf r).key ≠ none ∨ t.isLive (t.paramOf r).key = true))

/-- A registration is refused or does one of four things, each under its own condition. -/
theorem register_cases (t : ParamTable) (r : Registration) :
    (t.Refuses r ∧ t.register r = (false, t)) ∨
    (t.override? (t.paramOf r).key = none ∧ Keyed.get? (t.paramOf r).key t.live = none ∧
      t.register r = (true, t.addNew (t.paramOf r) r.position)) ∨
    (∃ old, t.override? (t.paramOf r).key = none ∧ Keyed.get? (t.paramOf r).key t.live = some old ∧
      t.register r = (true, t.replaceLive old (t.paramOf r) r.position r.initial)) ∨
    (∃ live, t.override? (t.paramOf r).key = some (.overridden live) ∧
      t.register r = (false, t.recordBeside live (t.paramOf r) r.initial)) ∨
    (∃ loser, t.override? (t.paramOf r).key = some (.overrides loser) ∧
      t.register r = (true, t.evict loser (t.paramOf r) r.position r.initial)) := by
  simp only [register, Refuses]
  by_cases hmust : (r.mustExist && !t.isLive (t.paramOf r).key) = true
  · rw [if_pos hmust]
    simp only [Bool.and_eq_true, Bool.not_eq_true'] at hmust
    exact Or.inl ⟨Or.inl hmust, rfl⟩
  · rw [if_neg hmust]
    cases hover : t.override? (t.paramOf r).key with
    | none =>
      cases hget : Keyed.get? (t.paramOf r).key t.live with
      | none => exact Or.inr (Or.inl ⟨rfl, rfl, rfl⟩)
      | some old =>
        cases hwrite : r.overwrite with
        | false => exact Or.inl ⟨Or.inr ⟨rfl, Or.inr (by simp [isLive, Keyed.has, hget])⟩, by simp⟩
        | true => exact Or.inr (Or.inr (Or.inl ⟨old, rfl, rfl, by simp⟩))
    | some override =>
      cases hwrite : r.overwrite with
      | false => exact Or.inl ⟨Or.inr ⟨rfl, Or.inl (by simp)⟩, by cases override <;> simp⟩
      | true =>
        cases override with
        | overridden live => exact Or.inr (Or.inr (Or.inr (Or.inl ⟨live, rfl, by simp⟩)))
        | overrides loser => exact Or.inr (Or.inr (Or.inr (Or.inr ⟨loser, rfl, by simp⟩)))

theorem register_of_refuses {t : ParamTable} {r : Registration} (h : t.Refuses r) : t.register r = (false, t) := by
  obtain ⟨hmust, hdead⟩ | ⟨hwrite, hthere⟩ := h
  · simp [register, hmust, hdead]
  · simp only [register, hwrite]
    split
    · rfl
    · split
      · rename_i hover hnew
        simp [hover, isLive, Keyed.has, hnew] at hthere
      · rfl
      · rfl
      · rfl

/-- A key that stands alone and is not live is added. -/
theorem register_eq_addNew {t : ParamTable} {r : Registration} (hmust : r.mustExist = false)
    (hover : t.override? (t.paramOf r).key = none) (hnew : Keyed.get? (t.paramOf r).key t.live = none) :
    t.register r = (true, t.addNew (t.paramOf r) r.position) := by
  simp [register, hmust, hover, hnew]

/-- A value goes on record beside a live key that has priority over its own. -/
theorem register_eq_recordBeside {t : ParamTable} {r : Registration} {winner : Text} (hmust : r.mustExist = false)
    (hwrite : r.overwrite = true) (hover : t.override? (t.paramOf r).key = some (.overridden winner)) :
    t.register r = (false, t.recordBeside winner (t.paramOf r) r.initial) := by
  simp [register, hmust, hover, hwrite]

/-- A key with priority over a live one takes its place. -/
theorem register_eq_evict {t : ParamTable} {r : Registration} {loser : Text} (hmust : r.mustExist = false)
    (hwrite : r.overwrite = true) (hover : t.override? (t.paramOf r).key = some (.overrides loser)) :
    t.register r = (true, t.evict loser (t.paramOf r) r.position r.initial) := by
  simp [register, hmust, hover, hwrite]

end PageMarkup.ParamTable
