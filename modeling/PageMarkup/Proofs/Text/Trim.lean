import Mathlib.Data.List.TakeWhile
import PageMarkup.Text.Blank

/-!
# Trimming

Trimming takes a beginning and an end off a text. What is left begins with no blank and ends with none, so
trimming it again changes nothing.
-/
namespace PageMarkup.Text

theorem trimStart_suffix (s : Text) : trimStart s <:+ s := List.dropWhile_suffix _

theorem trimEnd_prefixOf (s : Text) : trimEnd s <+: s := by
  have h := List.dropWhile_suffix (l := s.reverse) isBlank
  rw [← List.reverse_prefix, List.reverse_reverse] at h
  exact h

/-- A trimmed text is what is left of the text when some characters are dropped. -/
theorem trim_sublist (s : Text) : (trim s).Sublist s :=
  (trimEnd_prefixOf _).sublist.trans (trimStart_suffix s).sublist

@[simp] theorem trimEnd_trimEnd (s : Text) : trimEnd (trimEnd s) = trimEnd s := by
  have h : trimStart (trimStart s.reverse) = trimStart s.reverse := trimStart_trimStart s.reverse
  simp only [trimStart] at h
  simp only [trimEnd, List.reverse_reverse, h]

/-- A text trimmed at its start still begins with no blank after it is trimmed at its end. -/
theorem trimStart_trim (s : Text) : trimStart (trim s) = trim s := by
  cases h : trim s with
  | nil => rfl
  | cons c rest =>
    obtain ⟨behind, hbehind⟩ := trimEnd_prefixOf (trimStart s)
    have hstart : trimStart s = c :: (rest ++ behind) := by
      rw [← hbehind, show trimEnd (trimStart s) = c :: rest from h, List.cons_append]
    simp [trimStart, head_trimStart hstart]

@[simp] theorem trim_trim (s : Text) : trim (trim s) = trim s := by
  calc trim (trim s) = trimEnd (trimStart (trim s)) := rfl
    _ = trimEnd (trimEnd (trimStart s)) := by rw [trimStart_trim]; rfl
    _ = trim s := trimEnd_trimEnd _

/-- Nothing is trimmed off a text without blanks. -/
theorem trim_of_forall_not_isBlank {s : Text} (h : ∀ c ∈ s, isBlank c = false) : trim s = s := by
  have hstart : trimStart s = s := by
    rw [trimStart, List.dropWhile_eq_self_iff]
    intro hlength
    simp [h _ (List.getElem_mem hlength)]
  have hend : s.reverse.dropWhile isBlank = s.reverse := by
    rw [List.dropWhile_eq_self_iff]
    intro hlength
    rw [h _ (List.mem_reverse.mp (List.getElem_mem hlength))]
    decide
  rw [trim, hstart, trimEnd, hend, List.reverse_reverse]

end PageMarkup.Text
