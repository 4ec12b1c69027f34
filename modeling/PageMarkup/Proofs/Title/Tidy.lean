import PageMarkup.Proofs.Text.Respelled
import PageMarkup.Title.Read

/-!
# Tidy texts

Before a title is read its text is spread out: without direction marks, and with one space for each run of blanks and
underscores. This can be done on both sides of any other character (`spread_append_cons`), changes nothing in a text
that is tidy already (`spread_eq_self`), and makes underscores and spaces the same (`tidy_replaceChar`).
-/
namespace PageMarkup.Title

open Text

/-- The text without direction marks, with one space for each run of blanks and underscores. -/
def spread (given : Text) : Text := squeeze (replaceChar '_' ' ' (dropMarks given))

/-- Whether the text has no direction marks and no underscores, and single spaces for blanks. -/
structure IsTidy (s : Text) : Prop where
  spaced : IsSpaced s
  plain : ∀ c ∈ s, c ≠ '_' ∧ isDirectionMark c = false

theorem isBlank_of_replaced {c : Char} (h : isBlank c = true) : isBlank (if c = '_' then ' ' else c) = true := by
  split
  · rfl
  · exact h

theorem collapse_replaceChar_trim (s : Text) :
    collapse (replaceChar '_' ' ' (trim s)) = collapse (replaceChar '_' ' ' s) := by
  rw [collapse, replaceChar, words_map_trim (fun _ h => isBlank_of_replaced h), collapse, replaceChar]

/-- Tidying is spreading and trimming. -/
theorem tidy_eq_trim_spread (given : Text) : tidy given = trim (spread given) := by
  rw [tidy, clean, collapse_replaceChar_trim, collapse_eq_trim_squeeze, spread]

@[simp] theorem tidy_nil : tidy [] = [] := rfl

/-- A text is spread out on both sides of a character that means something in a title. -/
theorem spread_append_cons {c : Char} (a b : Text) (hblank : isBlank c = false) (hline : c ≠ '_')
    (hmark : isDirectionMark c = false) : spread (a ++ c :: b) = spread a ++ c :: spread b := by
  have hkept : replaceChar '_' ' ' (dropMarks (a ++ c :: b)) =
      replaceChar '_' ' ' (dropMarks a) ++ c :: replaceChar '_' ' ' (dropMarks b) := by
    simp [replaceChar, dropMarks, hmark, hline]
  rw [spread, hkept, squeeze_append_cons _ _ hblank, spread, spread]

theorem mem_spread {c : Char} {s : Text} (h : c ∈ spread s) : c ∈ s ∨ c = ' ' := by
  obtain hmem | rfl := mem_squeeze h
  · obtain ⟨d, hd, rfl⟩ := List.mem_map.mp hmem
    have hs : d ∈ s := List.mem_of_mem_filter hd
    split
    · exact Or.inr rfl
    · exact Or.inl hs
  · exact Or.inr rfl

theorem mem_tidy {c : Char} {s : Text} (h : c ∈ tidy s) : c ∈ s ∨ c = ' ' := by
  rw [tidy_eq_trim_spread] at h
  exact mem_spread ((trim_sublist _).subset h)

theorem notMem_tidy {c : Char} {s : Text} (hc : c ≠ ' ') (h : c ∉ s) : c ∉ tidy s :=
  fun hmem => (mem_tidy hmem).elim h hc

theorem dropMarks_eq_self {s : Text} (h : ∀ c ∈ s, isDirectionMark c = false) : dropMarks s = s :=
  List.filter_eq_self.mpr fun c hc => by simp [h c hc]

theorem replaceChar_eq_self {old new : Char} {s : Text} (h : ∀ c ∈ s, c ≠ old) : replaceChar old new s = s := by
  rw [replaceChar, List.map_congr_left fun c hc => if_neg (h c hc), List.map_id']

/-! ## Texts that are tidy -/

theorem IsTidy.within {s t : Text} (ht : IsTidy t) (h : s <:+: t) : IsTidy s :=
  ⟨ht.spaced.within h, fun c hc => ht.plain c (h.subset hc)⟩

theorem isTidy_spread (s : Text) : IsTidy (spread s) := by
  refine ⟨isSpaced_squeeze _, fun c hc => ?_⟩
  obtain hmem | rfl := mem_squeeze hc
  · obtain ⟨d, hd, rfl⟩ := List.mem_map.mp hmem
    have hmark : isDirectionMark d = false := by simpa using (List.mem_filter.mp hd).2
    split
    · exact ⟨by decide, by decide⟩
    · rename_i hline
      exact ⟨hline, hmark⟩
  · exact ⟨by decide, by decide⟩

theorem isTidy_tidy (s : Text) : IsTidy (tidy s) := by
  rw [tidy_eq_trim_spread]
  exact ((isTidy_spread s).within (trimStart_suffix _).isInfix).within (trimEnd_prefixOf _).isInfix

@[simp] theorem trim_tidy (s : Text) : trim (tidy s) = tidy s := by rw [tidy_eq_trim_spread, trim_trim]

theorem spread_eq_self {s : Text} (h : IsTidy s) : spread s = s := by
  rw [spread, dropMarks_eq_self fun c hc => (h.plain c hc).2, replaceChar_eq_self fun c hc => (h.plain c hc).1,
    squeeze_eq_self h.spaced]

theorem tidy_eq_self {s : Text} (h : IsTidy s) (htrim : trim s = s) : tidy s = s := by
  rw [tidy_eq_trim_spread, spread_eq_self h, htrim]

/-- Letters for letters keep a text tidy. -/
theorem IsTidy.respelled {s t : Text} (hs : IsTidy s) (h : Respelled s t) : IsTidy t := by
  refine ⟨h.isSpaced hs.spaced, fun c hc => ?_⟩
  obtain hmem | hletter := h.mem_or_isLetter hc
  · exact hs.plain c hmem
  · constructor
    · rintro rfl
      revert hletter
      decide
    · by_contra hmark
      simp [isLetter_of_isDirectionMark (by simpa using hmark)] at hletter

/-! ## Texts that are tidied alike -/

/-- A title with underscores is tidied to the title with spaces. -/
@[simp] theorem tidy_replaceChar (s : Text) : tidy (replaceChar ' ' '_' s) = tidy s := by
  have hmark : ∀ c, isDirectionMark (if c = ' ' then '_' else c) = isDirectionMark c := by
    intro c
    split
    · rename_i heq
      rw [heq]
      decide
    · rfl
  have hback : ∀ c : Char, (if (if c = ' ' then '_' else c) = '_' then ' ' else if c = ' ' then '_' else c) =
      if c = '_' then ' ' else c := by
    intro c
    by_cases hspace : c = ' '
    · simp [hspace]
    · simp [hspace]
  rw [tidy_eq_trim_spread, tidy_eq_trim_spread, spread, spread]
  simp only [replaceChar, dropMarks, List.filter_map, List.map_map, Function.comp_def, hmark, hback]

@[simp] theorem tidy_clean (s : Text) : tidy (clean s) = tidy s := by
  have hmarks : dropMarks (trim (dropMarks s)) = trim (dropMarks s) :=
    dropMarks_eq_self fun c hc => by simpa using (List.mem_filter.mp ((trim_sublist _).subset hc)).2
  rw [tidy, tidy, clean, clean, hmarks, trim_trim]

/-! ## Names of namespaces -/

theorem normalizedName_tidy (s : Text) : normalizedName (tidy s) = lower (tidy s) := by
  have htidy := isTidy_tidy s
  rw [normalizedName, replaceChar_eq_self fun c hc => (htidy.plain c hc).1, collapse_eq_trim htidy.spaced, trim_tidy]

/-- Names are compared in the lower case of their tidy form. -/
theorem normalizedName_eq {s : Text} (h : ∀ c ∈ s, isDirectionMark c = false) : normalizedName s = lower (tidy s) := by
  rw [normalizedName, tidy, clean, dropMarks_eq_self h, collapse_replaceChar_trim]

end PageMarkup.Title
