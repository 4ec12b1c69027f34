import PageMarkup.Proofs.Text.Search
import PageMarkup.Scan.Cut

/-!
# What cutting keeps

Taking comments out of a text drops some of its characters and keeps the others in their order, and so does trimming
what is left: the title of a head can be found in it character by character. Splitting loses one character at each cut.
However the constructs of a text are found, its top-level pieces joined by the first character of the separator are the
text again. The search moves ahead inside of constructs while the piece at hand keeps its start, so the invariant is that
the piece begins no later than the search.
-/
namespace PageMarkup

open Scan (Span)

/-! ## Comments -/

/-- The first occurrence of a text from an index on, or none. -/
theorem findFrom?_cases {sep : Text} (hsep : sep ≠ []) (s : Text) (pos : Nat) :
    (findFrom? sep s pos = none ∧ ∀ p, pos ≤ p → ¬ sep <+: s.drop p) ∨
      ∃ i, findFrom? sep s pos = some i ∧ pos ≤ i ∧ i < s.length ∧ sep <+: s.drop i ∧
        ∀ p, pos ≤ p → p < i → ¬ sep <+: s.drop p := by
  have hshift : ∀ p, pos ≤ p → (s.drop pos).drop (p - pos) = s.drop p := by
    intro p hp
    rw [List.drop_drop, Nat.add_sub_cancel' hp]
  have hinside : ∀ p, sep <+: s.drop p → p < s.length := by
    intro p hp
    by_contra hbeyond
    rw [List.drop_of_length_le (by omega)] at hp
    exact hsep (List.prefix_nil.mp hp)
  unfold findFrom?
  cases hfind : Text.find? sep (s.drop pos) with
  | none =>
    refine Or.inl ⟨by simp, fun p hp => ?_⟩
    rw [← hshift p hp]
    exact Text.find?_eq_none_iff.mp hfind (p - pos)
  | some k =>
    obtain ⟨hhere, hfirst⟩ := Text.find?_eq_some_iff.mp hfind
    rw [List.drop_drop] at hhere
    have hlen := hinside _ hhere
    refine Or.inr ⟨k + pos, by simp; omega, by omega, by omega, by rwa [Nat.add_comm], fun p hp hlt => ?_⟩
    rw [← hshift p hp]
    exact hfirst (p - pos) (by omega)

/-- What is found from an index on stands there. -/
theorem findFrom?_eq_some {sep s : Text} {pos i : Nat} (hsep : sep ≠ []) (h : findFrom? sep s pos = some i) :
    pos ≤ i ∧ i < s.length ∧ sep <+: s.drop i := by
  obtain ⟨hnone, -⟩ | ⟨j, hfind, hpos, hlen, hhere, -⟩ := findFrom?_cases hsep s pos
  · simp [h] at hnone
  · obtain rfl := Option.some.inj (h.symm.trans hfind)
    exact ⟨hpos, hlen, hhere⟩

theorem splitOutside_ne_nil (spans : List Span) (sep s : Text) (start pos : Nat) :
    splitOutside spans sep s start pos ≠ [] := by
  fun_induction splitOutside spans sep s start pos <;> simp_all

/-- Only the first character of a separator is left out between two pieces: joined by it, they are the text from the
start of the first one on. -/
theorem joinWith_head_splitOutside (spans : List Span) (c : Char) (rest s : Text) {start pos : Nat} (hstart : start ≤ pos) :
    Text.joinWith [c] (splitOutside spans (c :: rest) s start pos) = s.drop start := by
  fun_induction splitOutside spans (c :: rest) s start pos with
  | case1 start pos hnone => simp [Text.joinWith]
  | case2 start pos i hfind stop hstop hahead ih => exact ih (by omega)
  | case3 start pos i hfind stop hstop hstuck => simp [Text.joinWith]
  | case4 start pos i hfind houter hahead ih =>
    obtain ⟨hpos, hlen, behind, hsep⟩ := findFrom?_eq_some (List.cons_ne_nil c rest) hfind
    have hcut : s.drop i = c :: s.drop (i + 1) := by
      have htail := congrArg (List.drop 1) hsep
      rw [List.drop_drop] at htail
      rw [← htail, ← hsep]
      rfl
    obtain ⟨piece, others, hothers⟩ := List.exists_cons_of_ne_nil (splitOutside_ne_nil spans (c :: rest) s (i + 1) (i + 1))
    have hbehind := ih (Nat.le_refl _)
    rw [hothers] at hbehind ⊢
    calc Text.joinWith [c] (Text.slice start i s :: piece :: others)
        = Text.slice start i s ++ c :: Text.joinWith [c] (piece :: others) := by simp [Text.joinWith]
      _ = (s.take i).drop start ++ s.drop i := by rw [hbehind, ← hcut]; rfl
      _ = s.drop start := by
        conv_rhs => rw [← List.take_append_drop i s, List.drop_append_of_le_length (by simp; omega)]
  | case5 start pos i hfind houter hstuck => simp [Text.joinWith]

/-- The pieces joined by a separator of one character are the text from the start of the first one on. -/
theorem joinWith_splitOutside (spans : List Span) (c : Char) (s : Text) {start pos : Nat} (hstart : start ≤ pos) :
    Text.joinWith [c] (splitOutside spans [c] s start pos) = s.drop start :=
  joinWith_head_splitOutside spans c [] s hstart

/-- The top-level pieces joined by the separator are the text. -/
theorem joinWith_splitTopLevel (s : Text) (c : Char) : Text.joinWith [c] (splitTopLevel s [c]) = s := by
  exact joinWith_splitOutside (nestedSpans s) c s (Nat.le_refl 0)

theorem splitTopLevel_ne_nil (s sep : Text) : splitTopLevel s sep ≠ [] := splitOutside_ne_nil _ _ _ _ _

end PageMarkup
