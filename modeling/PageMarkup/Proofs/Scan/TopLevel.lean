import PageMarkup.Proofs.Scan.Cut

/-!
# Separators at the top level

A text is split at a separator unless a span holds it strictly inside. The search does not look at each separator: from
one that is enclosed it jumps to the end of the span that reaches furthest. `Search` is its course, in which nothing
sees to it that the search moves on. Every jump and every cut does move on (`search_splitOutside`), and what a jump
passes over is enclosed, so that the places of the cuts are the separators that no span encloses, whatever the spans are
(`cutPlaces_splitOutside`).
-/
namespace PageMarkup

open Scan (Span)

/-! ## Enclosed places -/

/-- Whether a span holds the place strictly inside. -/
def Enclosed (spans : List Span) (p : Nat) : Prop := ∃ span ∈ spans, span.start < p ∧ p < span.stop

theorem enclosingEnd?_eq_none_iff {spans : List Span} {i : Nat} :
    enclosingEnd? spans i = none ↔ ¬ Enclosed spans i := by
  simp [enclosingEnd?, Enclosed]

/-- From an enclosed place to the end of the span that reaches furthest every place is enclosed. -/
theorem enclosed_of_enclosingEnd? {spans : List Span} {i stop : Nat} (h : enclosingEnd? spans i = some stop) :
    i < stop ∧ ∀ p, i ≤ p → p < stop → Enclosed spans p := by
  obtain ⟨span, hmem, rfl⟩ := List.mem_map.mp (List.max?_mem h)
  obtain ⟨hspan, hinside⟩ := List.mem_filter.mp hmem
  simp only [Bool.and_eq_true, decide_eq_true_eq] at hinside
  exact ⟨hinside.2, fun p hp hlt => ⟨span, hspan, by omega, hlt⟩⟩

/-! ## The course of a search -/

/-- How the search for separators goes on, with a piece that begins at `start`, from the place `pos`, and the pieces
that it ends with. It jumps out of spans and cuts where none encloses the separator, wherever this leads it. -/
inductive Search (spans : List Span) (sep s : Text) : Nat → Nat → List Text → Prop where
  | finished {start pos : Nat} (hnone : findFrom? sep s pos = none) : Search spans sep s start pos [s.drop start]
  | jumped {start pos i stop : Nat} {pieces : List Text} (hfind : findFrom? sep s pos = some i)
      (hstop : enclosingEnd? spans i = some stop) (hrest : Search spans sep s start stop pieces) :
      Search spans sep s start pos pieces
  | cut {start pos i : Nat} {pieces : List Text} (hfind : findFrom? sep s pos = some i)
      (hstop : enclosingEnd? spans i = none) (hrest : Search spans sep s (i + 1) (i + 1) pieces) :
      Search spans sep s start pos (Text.slice start i s :: pieces)

theorem Search.ne_nil {spans : List Span} {sep s : Text} {start pos : Nat} {pieces : List Text}
    (h : Search spans sep s start pos pieces) : pieces ≠ [] := by
  induction h with
  | finished hnone => simp
  | jumped hfind hstop hrest ih => exact ih
  | cut hfind hstop hrest ih => simp

/-- A search ends with one list of pieces. -/
theorem Search.unique {spans : List Span} {sep s : Text} {start pos : Nat} {pieces others : List Text}
    (h : Search spans sep s start pos pieces) (hother : Search spans sep s start pos others) : pieces = others := by
  induction h generalizing others with
  | finished hnone => cases hother <;> simp_all
  | jumped hfind hstop hrest ih =>
    cases hother with
    | finished hnone => simp [hfind] at hnone
    | jumped hfind' hstop' hrest' =>
      obtain rfl := Option.some.inj (hfind.symm.trans hfind')
      obtain rfl := Option.some.inj (hstop.symm.trans hstop')
      exact ih hrest'
    | cut hfind' hstop' hrest' =>
      obtain rfl := Option.some.inj (hfind.symm.trans hfind')
      simp [hstop] at hstop'
  | cut hfind hstop hrest ih =>
    cases hother with
    | finished hnone => simp [hfind] at hnone
    | jumped hfind' hstop' hrest' =>
      obtain rfl := Option.some.inj (hfind.symm.trans hfind')
      simp [hstop] at hstop'
    | cut hfind' hstop' hrest' =>
      obtain rfl := Option.some.inj (hfind.symm.trans hfind')
      rw [ih hrest']

/-- The search moves on at every step, so it comes to an end. -/
theorem search_splitOutside_of_ne_nil (spans : List Span) {sep : Text} (hsep : sep ≠ []) (s : Text) (start pos : Nat) :
    Search spans sep s start pos (splitOutside spans sep s start pos) := by
  fun_induction splitOutside spans sep s start pos with
  | case1 start pos hnone => exact Search.finished hnone
  | case2 start pos i hfind stop hstop hahead ih => exact Search.jumped hfind hstop ih
  | case3 start pos i hfind stop hstop hstuck =>
    obtain ⟨hpos, hlen, -⟩ := findFrom?_eq_some hsep hfind
    have hjump := (enclosed_of_enclosingEnd? hstop).1
    omega
  | case4 start pos i hfind hstop hahead ih => exact Search.cut hfind hstop ih
  | case5 start pos i hfind hstop hstuck =>
    obtain ⟨hpos, hlen, -⟩ := findFrom?_eq_some hsep hfind
    omega

theorem search_splitOutside (spans : List Span) (c : Char) (s : Text) (start pos : Nat) :
    Search spans [c] s start pos (splitOutside spans [c] s start pos) :=
  search_splitOutside_of_ne_nil spans (List.cons_ne_nil c []) s start pos

/-! ## Places of cuts -/

/-- The places of the separators between pieces, of which the first one begins at `start`. -/
def cutPlaces (start : Nat) : List Text → List Nat
  | [] => []
  | [_] => []
  | piece :: next :: rest => (start + piece.length) :: cutPlaces (start + piece.length + 1) (next :: rest)

/-- Where a search cuts from a place on, the separators are that no span encloses: those before the next cut are
enclosed, and those that are jumped over as well. The search for the next one begins one character behind a cut, so none
is missed where separators overlap. -/
theorem Search.mem_cutPlaces_iff {spans : List Span} {sep s : Text} (hsep : sep ≠ []) {start pos : Nat}
    {pieces : List Text} (h : Search spans sep s start pos pieces) (hstart : start ≤ pos) (p : Nat) :
    p ∈ cutPlaces start pieces ↔ pos ≤ p ∧ sep <+: s.drop p ∧ ¬ Enclosed spans p := by
  induction h with
  | @finished start pos hnone =>
    obtain ⟨-, hnowhere⟩ | ⟨i, hfind, -⟩ := findFrom?_cases hsep s pos
    · simp only [cutPlaces, List.not_mem_nil, false_iff]
      exact fun ⟨hp, hhere, _⟩ => hnowhere p hp hhere
    · simp [hnone] at hfind
  | @jumped start pos i stop pieces hfind hstop hrest ih =>
    obtain ⟨hnone, -⟩ | ⟨j, hfind', hpos, -, -, hbetween⟩ := findFrom?_cases hsep s pos
    · simp [hfind] at hnone
    obtain rfl := Option.some.inj (hfind.symm.trans hfind')
    obtain ⟨hahead, hpassed⟩ := enclosed_of_enclosingEnd? hstop
    rw [ih (by omega)]
    refine ⟨fun ⟨hp, htop⟩ => ⟨by omega, htop⟩, fun ⟨hp, htop⟩ => ⟨?_, htop⟩⟩
    -- A separator between the two places would be the one that was found, or be enclosed.
    by_contra hbefore
    by_cases hp' : p < i
    · exact hbetween p hp hp' htop.1
    · exact htop.2 (hpassed p (by omega) (by omega))
  | @cut start pos i pieces hfind hstop hrest ih =>
    obtain ⟨hnone, -⟩ | ⟨j, hfind', hpos, hlen, hhere, hbetween⟩ := findFrom?_cases hsep s pos
    · simp [hfind] at hnone
    obtain rfl := Option.some.inj (hfind.symm.trans hfind')
    have htop : ¬ Enclosed spans i := enclosingEnd?_eq_none_iff.mp hstop
    have hplace : start + (Text.slice start i s).length = i := by
      simp only [Text.slice, List.length_drop, List.length_take]
      omega
    obtain ⟨next, rest, rfl⟩ := List.exists_cons_of_ne_nil hrest.ne_nil
    rw [cutPlaces, hplace, List.mem_cons, ih (Nat.le_refl _)]
    constructor
    · rintro (rfl | ⟨hp, htop'⟩)
      · exact ⟨hpos, hhere, htop⟩
      · exact ⟨by omega, htop'⟩
    · rintro ⟨hp, htop'⟩
      by_cases hp' : p < i
      · exact absurd htop'.1 (hbetween p hp hp')
      · obtain rfl | hlt := Nat.eq_or_lt_of_le (Nat.not_lt.mp hp')
        · exact Or.inl rfl
        · exact Or.inr ⟨hlt, htop'⟩

/-- Whether a separator stands at the place and no span encloses it. -/
def IsTopLevel (spans : List Span) (c : Char) (s : Text) (p : Nat) : Prop := s[p]? = some c ∧ ¬ Enclosed spans p

theorem singleton_prefixOf_drop_iff {c : Char} {s : Text} {p : Nat} : [c] <+: s.drop p ↔ s[p]? = some c := by
  rw [← List.head?_drop]
  cases s.drop p <;> simp [eq_comm]

theorem mem_cutPlaces_of_search {spans : List Span} {c : Char} {s : Text} {start pos : Nat} {pieces : List Text}
    (h : Search spans [c] s start pos pieces) (hstart : start ≤ pos) (p : Nat) :
    p ∈ cutPlaces start pieces ↔ pos ≤ p ∧ IsTopLevel spans c s p := by
  rw [h.mem_cutPlaces_iff (List.cons_ne_nil c []) hstart, singleton_prefixOf_drop_iff, IsTopLevel]

/-- Whatever the spans are, the search for a character ends, with pieces that joined by it are the text again, and it
cuts just where the character stands and no span holds it strictly inside. `splitTopLevel` is the case of the spans that
are found in the text itself. -/
theorem cutPlaces_splitOutside (spans : List Span) (c : Char) (s : Text) :
    (∀ pieces, Search spans [c] s 0 0 pieces ↔ pieces = splitOutside spans [c] s 0 0) ∧
      Text.joinWith [c] (splitOutside spans [c] s 0 0) = s ∧
      ∀ p, p ∈ cutPlaces 0 (splitOutside spans [c] s 0 0) ↔
        s[p]? = some c ∧ ∀ span ∈ spans, ¬ (span.start < p ∧ p < span.stop) := by
  have hends := search_splitOutside spans c s 0 0
  refine ⟨fun pieces => ⟨fun h => h.unique hends, ?_⟩, joinWith_splitOutside spans c s (Nat.le_refl 0), fun p => ?_⟩
  · rintro rfl
    exact hends
  · rw [mem_cutPlaces_of_search hends (Nat.le_refl 0)]
    simp [IsTopLevel, Enclosed]

/-- Of two spans that overlap the second one is jumped to from within the first, and its end is no longer inside. -/
example : splitOutside [⟨0, 4⟩, ⟨2, 7⟩, ⟨8, 8⟩] ['|'] "a|b|c|d|e".toList 0 0 = ["a|b|c|d".toList, "e".toList] := by cbv

end PageMarkup
