import PageMarkup.Proofs.Param.Edits
import PageMarkup.Proofs.Param.FreeKey

/-!
# Parameters and their keys

Whatever chains tie the keys of a table together, each parameter fits the key that it is live under: the key is trimmed
and not empty, it is the numeral of a positive number if the parameter is unnamed, and the value of a named parameter is
trimmed. A registration makes its parameter so, and what it does to others is done to their records alone.
-/
namespace PageMarkup

/-- Whether a parameter may be live under a key. -/
structure Param.Fits (key : Text) (p : Param) : Prop where
  key_eq : p.key = key
  key_ne_nil : key ≠ []
  trim_key : Text.trim key = key
  numeral : p.unnamed = true → ∃ n, 0 < n ∧ key = Text.ofNat n
  trim_value : p.unnamed = false → Text.trim p.value = p.value

namespace ParamTable

theorem paramOf_of_blank {t : ParamTable} {r : Registration} (h : Text.trim r.key = []) :
    t.paramOf r = { key := t.freeKey, value := r.value, unnamed := true, source := r.source } := by
  simp [paramOf, h]

theorem paramOf_of_named {t : ParamTable} {r : Registration} (h : Text.trim r.key ≠ []) :
    t.paramOf r =
      { key := Text.trim r.key, value := Text.trim r.value, unnamed := false, source := r.source } := by
  simp [paramOf, h]

/-- What is registered fits its key. -/
theorem fits_paramOf (t : ParamTable) (r : Registration) : (t.paramOf r).Fits (t.paramOf r).key := by
  by_cases h : Text.trim r.key = []
  · rw [paramOf_of_blank h]
    have hpos : 0 < t.leastFree := t.leastFree_pos
    exact ⟨rfl, Text.ofNat_ne_nil _, Text.trim_ofNat _, fun _ => ⟨t.leastFree, hpos, rfl⟩, fun h => by simp at h⟩
  · rw [paramOf_of_named h]
    exact ⟨rfl, h, Text.trim_trim _, fun h => by simp at h, fun _ => Text.trim_trim _⟩

/-- The table has this parameter after a registration because it had it before, up to the record beside it, or because
it is what was registered, up to the record beside it and the text that it was read from. -/
theorem get?_register_cases {t : ParamTable} {r : Registration} {key : Text} {p : Param}
    (h : Keyed.get? key (t.register r).2.live = some p) :
    (∃ old superseded, Keyed.get? key t.live = some old ∧ p = { old with superseded }) ∨
      (key = (t.paramOf r).key ∧ ∃ superseded source, p = { t.paramOf r with superseded, source }) := by
  have hkept : Keyed.get? key t.live = some p →
      ∃ old superseded, Keyed.get? key t.live = some old ∧ p = { old with superseded } :=
    fun hget => ⟨p, p.superseded, hget, rfl⟩
  obtain ⟨-, hrun⟩ | ⟨-, -, hrun⟩ | ⟨old, -, -, hrun⟩ | ⟨live, -, hrun⟩ | ⟨loser, -, hrun⟩ := t.register_cases r
  · rw [hrun] at h
    exact Or.inl (hkept h)
  · rw [hrun] at h
    obtain ⟨hkey, hp⟩ | hget := Keyed.get?_put_cases h
    · exact Or.inr ⟨hkey, _, _, hp⟩
    · exact Or.inl (hkept hget)
  · rw [hrun] at h
    unfold replaceLive at h
    split at h
    · obtain ⟨hkey, hp⟩ | hget := Keyed.get?_put_cases h
      · exact Or.inr ⟨hkey, _, _, hp⟩
      · exact Or.inl (hkept hget)
    · obtain ⟨hkey, hp⟩ | hget := Keyed.get?_put_cases h
      · exact Or.inr ⟨hkey, _, _, hp⟩
      · exact Or.inl (hkept hget)
  · rw [hrun] at h
    unfold recordBeside at h
    split at h
    · rename_i winner hwinner
      obtain ⟨hkey, hp⟩ | hget := Keyed.get?_put_cases h
      · exact Or.inl ⟨winner, _, hkey ▸ hwinner, hp⟩
      · exact Or.inl (hkept hget)
    · exact Or.inl (hkept h)
  · rw [hrun] at h
    obtain ⟨hkey, hp⟩ | hget := Keyed.get?_put_cases h
    · exact Or.inr ⟨hkey, _, _, hp⟩
    · rw [Keyed.get?_erase] at hget
      split at hget
      · simp at hget
      · exact Or.inl (hkept hget)

/-- Every live parameter fits its key. -/
theorem Reached.fits {chains : List (List Text)} {t : ParamTable} (ht : Reached chains t) {key : Text} {p : Param}
    (h : Keyed.get? key t.live = some p) : p.Fits key := by
  induction ht generalizing p with
  | empty => simp [ParamTable.empty, Keyed.get?] at h
  | @register t _ r ih =>
    obtain ⟨old, superseded, hold, rfl⟩ | ⟨rfl, superseded, source, rfl⟩ := get?_register_cases h
    · have hfits := ih hold
      exact ⟨hfits.key_eq, hfits.key_ne_nil, hfits.trim_key, hfits.numeral, hfits.trim_value⟩
    · have hfits := t.fits_paramOf r
      exact ⟨hfits.key_eq, hfits.key_ne_nil, hfits.trim_key, hfits.numeral, hfits.trim_value⟩
  | erase _ erased ih =>
    rw [ParamTable.erase, Keyed.get?_erase] at h
    split at h
    · simp at h
    · exact ih h

theorem Reached.fits_of_mem {chains : List (List Text)} {t : ParamTable} (ht : Reached chains t) {entry : Text × Param}
    (h : entry ∈ t.live) : entry.2.Fits entry.1 :=
  ht.fits (Keyed.get?_of_mem ht.distinctKeys h)

theorem Reached.key_ne_nil {chains : List (List Text)} {t : ParamTable} (ht : Reached chains t) {key : Text}
    (h : t.isLive key = true) : key ≠ [] := by
  unfold isLive Keyed.has at h
  obtain ⟨p, hp⟩ := Option.isSome_iff_exists.mp h
  exact (ht.fits hp).key_ne_nil

end ParamTable

end PageMarkup
