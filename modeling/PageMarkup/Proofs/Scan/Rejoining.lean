import PageMarkup.Proofs.Scan.TopLevel

/-!
# Pieces joined again

A separator may have more than one character. It is looked for as a whole, but at a cut only its first character is left
out, and the rest of it begins the next piece. So the pieces joined by that character are always the text again. Joined
by the separator itself they are longer than the text by as many characters as were kept of it, unless there was no cut
(`joinWith_splitTopLevel_iff`).
-/
namespace PageMarkup

/-- There is no cut if and only if there is one piece. -/
theorem cutPlaces_eq_nil_iff {start : Nat} {piece : Text} {others : List Text} :
    cutPlaces start (piece :: others) = [] ↔ others = [] := by
  cases others <;> simp [cutPlaces]

/-- Two separators of different lengths join several pieces to texts of different lengths. -/
theorem joinWith_eq_joinWith_iff {sep other : Text} (hlength : sep.length ≠ other.length) {piece : Text}
    {others : List Text} : Text.joinWith sep (piece :: others) = Text.joinWith other (piece :: others) ↔ others = [] := by
  constructor
  · intro hsame
    have hlengths := congrArg List.length hsame
    rw [Text.length_joinWith, Text.length_joinWith, Nat.add_left_cancel_iff] at hlengths
    by_contra hothers
    exact hlength (Nat.eq_of_mul_eq_mul_left (List.length_pos_iff.mpr hothers) hlengths)
  · rintro rfl
    rfl

/-- The search for a separator ends, with pieces that joined by its first character are the text again. Joined by the
separator itself they are the text if and only if it has no other character, or no piece of the text was cut off because
every place at which it stands is inside of a construct. -/
theorem joinWith_splitTopLevel_iff (s : Text) (c : Char) (rest : Text) :
    (∀ pieces, Search (nestedSpans s) (c :: rest) s 0 0 pieces ↔ pieces = splitTopLevel s (c :: rest)) ∧
      Text.joinWith [c] (splitTopLevel s (c :: rest)) = s ∧
      (Text.joinWith (c :: rest) (splitTopLevel s (c :: rest)) = s ↔
        rest = [] ∨ ∀ p, (c :: rest) <+: s.drop p → ∃ span ∈ nestedSpans s, span.start < p ∧ p < span.stop) := by
  have hsep : c :: rest ≠ [] := List.cons_ne_nil c rest
  have hends : Search (nestedSpans s) (c :: rest) s 0 0 (splitTopLevel s (c :: rest)) :=
    search_splitOutside_of_ne_nil _ hsep s 0 0
  have hhead : Text.joinWith [c] (splitTopLevel s (c :: rest)) = s :=
    joinWith_head_splitOutside _ c rest s (Nat.le_refl 0)
  have hcuts : cutPlaces 0 (splitTopLevel s (c :: rest)) = [] ↔
      ∀ p, (c :: rest) <+: s.drop p → Enclosed (nestedSpans s) p := by
    simp [List.eq_nil_iff_forall_not_mem, hends.mem_cutPlaces_iff hsep (Nat.le_refl 0)]
  refine ⟨fun pieces => ⟨fun h => h.unique hends, fun h => h ▸ hends⟩, hhead, ?_⟩
  obtain rfl | hrest := eq_or_ne rest []
  · exact iff_of_true hhead (Or.inl rfl)
  · have hlength : (c :: rest).length ≠ [c].length := by simpa using hrest
    obtain ⟨piece, others, hpieces⟩ := List.exists_cons_of_ne_nil (splitTopLevel_ne_nil s (c :: rest))
    calc Text.joinWith (c :: rest) (splitTopLevel s (c :: rest)) = s
        ↔ Text.joinWith (c :: rest) (piece :: others) = Text.joinWith [c] (piece :: others) := by
          rw [← hpieces, hhead]
      _ ↔ cutPlaces 0 (splitTopLevel s (c :: rest)) = [] := by
          rw [joinWith_eq_joinWith_iff hlength, hpieces, cutPlaces_eq_nil_iff]
      _ ↔ rest = [] ∨ ∀ p, (c :: rest) <+: s.drop p → Enclosed (nestedSpans s) p := by
          rw [hcuts, or_iff_right hrest]

/-- A separator of two pipes leaves its second one in front of the next piece. -/
theorem joinWith_splitTopLevel_twoPipes :
    splitTopLevel "a||b".toList "||".toList = ["a".toList, "|b".toList] ∧
      Text.joinWith "||".toList (splitTopLevel "a||b".toList "||".toList) ≠ "a||b".toList := by
  have hpieces : splitTopLevel "a||b".toList "||".toList = ["a".toList, "|b".toList] := by decide +kernel
  refine ⟨hpieces, ?_⟩
  rw [hpieces]
  decide

end PageMarkup
