import PageMarkup.Proofs.Param.Consistent

/-!
# What an insertion answers

An insertion under a key of one's own is never refused with a fault if its position can be read (`insert_of_named`). It
answers that the value is live, and then it is, or that it is not. The second answer is given in two cases. The value
went on record beside a live key of priority, and then its own key is not live. Or the table was to be left alone, and
then the table is as it was before, which may have had that very value under the key:
`ParamTable.insert_answers_iff` says that this is the one case in which the answer and the table disagree.
-/
namespace PageMarkup.ParamTable

/-! ## Answers of registrations -/

section

variable {t : ParamTable} {r : Registration}

/-- After the answer that the value is live the parameter is the one under its key, up to the record beside it and the
text that it was read from. -/
theorem get?_register_of_true (h : (t.register r).1 = true) :
    ∃ superseded source, Keyed.get? (t.paramOf r).key (t.register r).2.live =
      some { t.paramOf r with superseded, source } := by
  obtain ⟨-, hrun⟩ | ⟨-, -, hrun⟩ | ⟨old, -, -, hrun⟩ | ⟨winner, -, hrun⟩ | ⟨loser, -, hrun⟩ := t.register_cases r
  · simp [hrun] at h
  · rw [hrun]
    exact ⟨_, _, Keyed.get?_put_self _ _ _⟩
  · rw [hrun]
    unfold replaceLive
    split
    · exact ⟨_, _, Keyed.get?_put_self _ _ _⟩
    · exact ⟨_, _, Keyed.get?_put_self _ _ _⟩
  · simp [hrun] at h
  · rw [hrun]
    exact ⟨_, _, Keyed.get?_put_self _ _ _⟩

/-- After the other answer the table is as it was before, because the registration is refused, or the key is not live,
because the value is on record beside a live key that has priority over it. -/
theorem register_of_false (ht : t.Consistent) (hdisjoint : t.chains.Pairwise List.Disjoint)
    (h : (t.register r).1 = false) :
    (t.Refuses r ∧ (t.register r).2 = t) ∨
      (¬ t.Refuses r ∧ (t.register r).2.isLive (t.paramOf r).key = false ∧
        ∃ winner, t.override? (t.paramOf r).key = some (.overridden winner) ∧
          (t.register r).2 = t.recordBeside winner (t.paramOf r) r.initial) := by
  by_cases hrefuses : t.Refuses r
  · rw [register_of_refuses hrefuses]
    exact Or.inl ⟨hrefuses, rfl⟩
  · obtain ⟨hrefused, -⟩ | ⟨-, -, hrun⟩ | ⟨old, -, -, hrun⟩ | ⟨winner, hover, hrun⟩ | ⟨loser, -, hrun⟩ :=
      t.register_cases r
    · exact absurd hrefused hrefuses
    · simp [hrun] at h
    · simp [hrun] at h
    · obtain ⟨hwinner, hne, chain, hchain, hmem, -⟩ := override?_eq_overridden hover
      have hakin : Akin t.chains (t.paramOf r).key winner := (akin_iff_mem hdisjoint hchain).mpr hmem
      rw [hrun]
      refine Or.inr ⟨hrefuses, ?_, winner, hover, rfl⟩
      rw [Bool.eq_false_iff, ne_eq, isLive_recordBeside]
      exact fun hlive => hne (ht.alone _ _ hlive hwinner hakin).symm
    · simp [hrun] at h

end

/-! ## When answer and table agree -/

/-- Whether a value is live under a key. -/
def HasValue (t : ParamTable) (key value : Text) : Prop := (Keyed.get? key t.live).map Param.value = some value

instance (t : ParamTable) (key value : Text) : Decidable (t.HasValue key value) := inferInstanceAs (Decidable (_ = _))

theorem HasValue.isLive {t : ParamTable} {key value : Text} (h : t.HasValue key value) : t.isLive key = true := by
  obtain ⟨p, hp, -⟩ := Option.map_eq_some_iff.mp h
  exact isLive_iff.mpr ⟨p, hp⟩

theorem hasValue_of_true {t : ParamTable} {r : Registration} (hkey : Text.trim r.key ≠ [])
    (h : (t.register r).1 = true) : (t.register r).2.HasValue (Text.trim r.key) (Text.trim r.value) := by
  obtain ⟨superseded, source, hget⟩ := get?_register_of_true h
  rw [paramOf_of_named hkey] at hget
  exact Option.map_eq_some_iff.mpr ⟨_, hget, rfl⟩

/-- The answer of a registration under a key of one's own agrees with the table, unless the table was to be left alone
and has had the value under the key all along. -/
theorem register_answers_iff {t : ParamTable} (ht : t.Consistent) (hdisjoint : t.chains.Pairwise List.Disjoint)
    (r : Registration) (hkey : Text.trim r.key ≠ []) (hmust : r.mustExist = false) :
    (((t.register r).1 = true ↔ (t.register r).2.HasValue (Text.trim r.key) (Text.trim r.value)) ↔
      ¬ (r.overwrite = false ∧ t.HasValue (Text.trim r.key) (Text.trim r.value))) := by
  have hparam := paramOf_of_named (t := t) hkey
  have hrefused : r.overwrite = false → t.HasValue (Text.trim r.key) (Text.trim r.value) → t.Refuses r := by
    intro hwrite hvalue
    refine Or.inr ⟨hwrite, Or.inr ?_⟩
    rw [hparam]
    exact hvalue.isLive
  cases hanswer : (t.register r).1 with
  | true =>
    have hvalue := hasValue_of_true hkey hanswer
    have hnot : ¬ (r.overwrite = false ∧ t.HasValue (Text.trim r.key) (Text.trim r.value)) := by
      rintro ⟨hwrite, hbefore⟩
      simp [register_of_refuses (hrefused hwrite hbefore)] at hanswer
    exact iff_of_true (iff_of_true rfl hvalue) hnot
  | false =>
    obtain ⟨hrefuses, hsame⟩ | ⟨hrefuses, hdead, -⟩ := register_of_false ht hdisjoint hanswer
    · have hwrite : r.overwrite = false := by
        obtain ⟨hmust', -⟩ | ⟨hwrite, -⟩ := hrefuses
        · simp [hmust] at hmust'
        · exact hwrite
      rw [hsame]
      simp [hwrite]
    · have hnone : ¬ (t.register r).2.HasValue (Text.trim r.key) (Text.trim r.value) := by
        intro hvalue
        rw [hparam, hvalue.isLive] at hdead
        simp at hdead
      have hnot : ¬ (r.overwrite = false ∧ t.HasValue (Text.trim r.key) (Text.trim r.value)) := fun h =>
        hrefuses (hrefused h.1 h.2)
      exact iff_of_true (iff_of_false (by simp) hnone) hnot

/-- In a table that was made of seeds and chains that do not meet, after whatever calls, the answer to an insertion is
that the value is live only if it is. It is that answer if and only if the value is live, unless the insertion must not
overwrite and has come upon that very value under the key. -/
theorem insert_answers_iff {seeds hierarchies : Value} {chains : List (List Text)} {t : ParamTable}
    (hchains : readChains hierarchies = .ok chains) (hdisjoint : chains.Pairwise List.Disjoint)
    (h : ofValues seeds hierarchies = .ok t) (edits : List Edit) {key : Text} (hkey : Text.trim key ≠ [])
    {position : Value} {place : Option Position} (hplace : Position.ofValue position = .ok place) (value : Text)
    (overwrite : Bool) :
    ∃ answer u, (t.run edits).insert (.text key) (.text value) overwrite position = .ok (answer, u) ∧
      (answer = true → u.HasValue (Text.trim key) (Text.trim value)) ∧
      ((answer = true ↔ u.HasValue (Text.trim key) (Text.trim value)) ↔
        ¬ (overwrite = false ∧ (t.run edits).HasValue (Text.trim key) (Text.trim value))) := by
  have hreached := reached_run_of_ofValues hchains h edits
  have hkept : (t.run edits).chains.Pairwise List.Disjoint := hreached.chains_eq.symm ▸ hdisjoint
  let r : Registration := { key, value, overwrite, position := place }
  have hinsert : (t.run edits).insert (.text key) (.text value) overwrite position = .ok ((t.run edits).register r) :=
    insert_of_named hkey hplace _ _ _
  have hsound : ((t.run edits).register r).1 = true →
      ((t.run edits).register r).2.HasValue (Text.trim key) (Text.trim value) := hasValue_of_true hkey
  exact ⟨_, _, hinsert, hsound, register_answers_iff (hreached.consistent hdisjoint) hkept r hkey rfl⟩

/-- An insertion that must not overwrite comes upon another value, which stays. -/
theorem insert_answers_otherValue :
    ∃ answer u, ((empty pairedChains).run [insertEmpty ['b'], insertEmpty ['a']]).insert (.text [' ', 'b'])
        (.text ['4', ' ']) false (.text "start".toList) = .ok (answer, u) ∧
      (answer = true ↔ u.HasValue ['b'] ['4']) := by
  have hread : readChains (chainsValue pairedChains) = .ok pairedChains := rfl
  have hdisjoint : pairedChains.Pairwise List.Disjoint := by simp [pairedChains, List.Disjoint]
  have hmade : ofValues (.list []) (chainsValue pairedChains) = .ok (empty pairedChains) := rfl
  have hkey : Text.trim [' ', 'b'] ≠ [] := by decide
  have hplace : Position.ofValue (.text "start".toList) = .ok (some .start) := rfl
  obtain ⟨answer, u, hinsert, -, hagree⟩ :=
    insert_answers_iff hread hdisjoint hmade [insertEmpty ['b'], insertEmpty ['a']] hkey hplace ['4', ' '] false
  have hother : ¬ ((empty pairedChains).run [insertEmpty ['b'], insertEmpty ['a']]).HasValue ['b'] ['4'] := by decide
  exact ⟨answer, u, hinsert, hagree.mpr fun h => hother h.2⟩

/-- An insertion that must not overwrite comes upon its own value, and answers that it is not live. -/
theorem insert_answers_sameValue :
    ∃ u, ((empty []).run [.insert (.text ['a']) (.text ['1']) true .null]).insert (.text ['a']) (.text ['1']) false
        .null = .ok (false, u) ∧
      u.HasValue ['a'] ['1'] :=
  ⟨_, rfl, rfl⟩

end PageMarkup.ParamTable
