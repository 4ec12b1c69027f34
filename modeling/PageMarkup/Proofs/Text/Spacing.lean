import Mathlib.Data.List.Chain
import PageMarkup.Proofs.Text.Search
import PageMarkup.Proofs.Text.Trim

/-!
# Collapsing blanks

Collapsing is trimming after `squeeze`, which leaves one space for each run of blanks. A run of blanks ends at any other
character, so that `squeeze` can be done on both sides of it (`squeeze_append_cons`), and a text whose blanks are single
spaces is left as it is (`squeeze_eq_self`).
-/
namespace PageMarkup.Text

/-! ## Trimming beside a character -/

theorem trimStart_cons_of_not_isBlank {c : Char} (s : Text) (h : isBlank c = false) : trimStart (c :: s) = c :: s := by
  simp [trimStart, h]

theorem trimStart_cons_of_isBlank {c : Char} (s : Text) (h : isBlank c = true) : trimStart (c :: s) = trimStart s := by
  simp [trimStart, h]

theorem trimStart_append_cons {c : Char} (a b : Text) (h : isBlank c = false) :
    trimStart (a ++ c :: b) = trimStart a ++ c :: b := by
  induction a with
  | nil => exact trimStart_cons_of_not_isBlank b h
  | cons d a ih =>
    cases hd : isBlank d with
    | false => rw [List.cons_append, trimStart_cons_of_not_isBlank _ hd, trimStart_cons_of_not_isBlank _ hd,
        List.cons_append]
    | true => rw [List.cons_append, trimStart_cons_of_isBlank _ hd, trimStart_cons_of_isBlank _ hd, ih]

theorem trimStart_append_of_ne_nil {a : Text} (b : Text) (h : trimStart a ≠ []) :
    trimStart (a ++ b) = trimStart a ++ b := by
  rw [trimStart, List.dropWhile_append, if_neg (by simpa [trimStart] using h), trimStart]

theorem trimStart_append_of_forall {a : Text} (b : Text) (h : ∀ c ∈ a, isBlank c = true) :
    trimStart (a ++ b) = trimStart b := by
  rw [trimStart, List.dropWhile_append_of_pos h, trimStart]

theorem trimEnd_append_cons {c : Char} (a b : Text) (h : isBlank c = false) :
    trimEnd (a ++ c :: b) = a ++ c :: trimEnd b := by
  have hreverse : (a ++ c :: b).reverse = b.reverse ++ c :: a.reverse := by simp
  have hstart := trimStart_append_cons b.reverse a.reverse h
  rw [trimStart, trimStart] at hstart
  simp [trimEnd, hreverse, hstart]

theorem trimEnd_cons {c : Char} (s : Text) (h : isBlank c = false) : trimEnd (c :: s) = c :: trimEnd s :=
  trimEnd_append_cons [] s h

theorem trimEnd_append_of_forall (a : Text) {b : Text} (h : ∀ c ∈ b, isBlank c = true) :
    trimEnd (a ++ b) = trimEnd a := by
  rw [trimEnd, List.reverse_append, List.dropWhile_append_of_pos (by simpa using h), trimEnd]

theorem trimEnd_append_of_not_isBlank {a : Text} (b : Text) (h : ∀ c ∈ a, isBlank c = false) :
    trimEnd (a ++ b) = a ++ trimEnd b := by
  induction a with
  | nil => rfl
  | cons c a ih =>
    rw [List.cons_append, trimEnd_cons _ (h c List.mem_cons_self), ih fun d hd => h d (List.mem_cons_of_mem c hd),
      List.cons_append]

theorem trim_append_of_not_isBlank {a : Text} (b : Text) (hne : a ≠ []) (h : ∀ c ∈ a, isBlank c = false) :
    trim (a ++ b) = a ++ trimEnd b := by
  obtain ⟨c, cs, rfl⟩ := List.exists_cons_of_ne_nil hne
  rw [trim, List.cons_append, trimStart_cons_of_not_isBlank _ (h c List.mem_cons_self), ← List.cons_append,
    trimEnd_append_of_not_isBlank b h]

theorem trim_cons_of_isBlank {c : Char} (s : Text) (h : isBlank c = true) : trim (c :: s) = trim s := by
  rw [trim, trimStart_cons_of_isBlank s h, trim]

theorem trim_cons_of_not_isBlank {c : Char} (s : Text) (h : isBlank c = false) : trim (c :: s) = c :: trimEnd s := by
  rw [trim, trimStart_cons_of_not_isBlank s h, trimEnd_cons s h]

theorem trimEnd_cons_of_isBlank {c : Char} (s : Text) (h : isBlank c = true) :
    trimEnd (c :: s) = if trimEnd s = [] then [] else c :: trimEnd s := by
  have hdrop : ∀ t : Text, (t ++ [c]).dropWhile isBlank =
      if t.dropWhile isBlank = [] then [] else t.dropWhile isBlank ++ [c] := by
    intro t
    induction t with
    | nil => simp [h]
    | cons d t ih =>
      cases hd : isBlank d with
      | false => simp [hd]
      | true => simpa [hd] using ih
  simp only [trimEnd, List.reverse_cons, hdrop, List.reverse_eq_nil_iff]
  split
  · rfl
  · simp

theorem trimStart_eq_nil_of_trim {s : Text} (h : trim s = []) : trimStart s = [] := by
  cases hstart : trimStart s with
  | nil => rfl
  | cons c rest =>
    rw [trim, hstart, trimEnd_cons rest (head_trimStart hstart)] at h
    simp at h

/-- It does not matter which end is trimmed first. -/
theorem trimStart_trimEnd (s : Text) : trimStart (trimEnd s) = trim s := by
  induction s with
  | nil => rfl
  | cons c s ih =>
    cases hc : isBlank c with
    | false => rw [trimEnd_cons s hc, trimStart_cons_of_not_isBlank _ hc, trim_cons_of_not_isBlank s hc]
    | true =>
      rw [trimEnd_cons_of_isBlank s hc, trim_cons_of_isBlank s hc, ← ih]
      split
      · rename_i hnil
        rw [hnil]
      · exact trimStart_cons_of_isBlank _ hc

/-- A trimmed text is trimmed at its start and at its end. -/
theorem trim_eq_self_iff {s : Text} : trim s = s ↔ trimStart s = s ∧ trimEnd s = s := by
  constructor
  · intro h
    have hstart : trimStart s = s := by
      rw [← h]
      exact trimStart_trim s
    refine ⟨hstart, ?_⟩
    rwa [trim, hstart] at h
  · rintro ⟨hstart, hend⟩
    rw [trim, hstart, hend]

theorem trimStart_eq_self_iff {s : Text} : trimStart s = s ↔ ∀ c, isBlank c = true → ¬ [c] <+: s := by
  cases s with
  | nil => simp [trimStart]
  | cons d s =>
    cases hd : isBlank d with
    | false =>
      refine iff_of_true (trimStart_cons_of_not_isBlank s hd) fun c hc hbegin => ?_
      obtain ⟨rfl, -⟩ := List.cons_prefix_cons.mp hbegin
      simp [hc] at hd
    | true =>
      refine iff_of_false (fun hself => ?_) fun hnone => hnone d hd ⟨s, rfl⟩
      have hhead := head_trimStart hself
      simp [hd] at hhead

theorem trimEnd_eq_self_iff {s : Text} : trimEnd s = s ↔ ∀ c, isBlank c = true → ¬ [c] <:+ s := by
  have hreverse : trimEnd s = s ↔ trimStart s.reverse = s.reverse := by
    rw [trimEnd, trimStart, ← List.reverse_inj, List.reverse_reverse]
  have hends : ∀ c, [c] <+: s.reverse ↔ [c] <:+ s := by
    intro c
    rw [← List.reverse_suffix, List.reverse_reverse, List.reverse_singleton]
  simp only [hreverse, trimStart_eq_self_iff, hends]

/-- A beginning of a text that is trimmed at its start is trimmed there. -/
theorem trimStart_of_prefixOf {s t : Text} (ht : trimStart t = t) (h : s <+: t) : trimStart s = s :=
  trimStart_eq_self_iff.mpr fun c hc hs => trimStart_eq_self_iff.mp ht c hc (hs.trans h)

theorem trimEnd_of_suffixOf {s t : Text} (ht : trimEnd t = t) (h : s <:+ t) : trimEnd s = s :=
  trimEnd_eq_self_iff.mpr fun c hc hs => trimEnd_eq_self_iff.mp ht c hc (hs.trans h)

/-- A text that is trimmed at its end does not end with a blank. -/
theorem exists_concat_of_trimEnd {t : Text} (ht : t ≠ []) (h : trimEnd t = t) :
    ∃ init last, t = init ++ [last] ∧ isBlank last = false := by
  obtain ⟨init, last, rfl⟩ := (List.eq_nil_or_concat' t).resolve_left ht
  refine ⟨init, last, rfl, ?_⟩
  rw [Bool.eq_false_iff]
  exact fun hblank => trimEnd_eq_self_iff.mp h last hblank (List.suffix_append _ _)

/-- Nothing but blanks stands in front of a text in which what is left of the whole begins, if that goes on behind the
text with a character that occurs nowhere before, or ends there. -/
theorem forall_isBlank_of_trim_append {front t behind rest : Text} (ht : t ≠ [])
    (h : trim (front ++ t ++ behind) = t ++ rest)
    (hrest : rest = [] ∨ ∃ c others, rest = c :: others ∧ c ∉ front ++ t) : ∀ c ∈ front, isBlank c = true := by
  rw [← List.dropWhile_eq_nil_iff]
  by_contra hne
  change trimStart front ≠ [] at hne
  have hstart : trimStart (front ++ t ++ behind) = trimStart front ++ t ++ behind := by
    rw [List.append_assoc, trimStart_append_of_ne_nil _ hne, List.append_assoc]
  have hlength : 0 < (trimStart front).length := List.length_pos_of_ne_nil hne
  obtain rfl | ⟨c, others, rfl, hc⟩ := hrest
  · -- The last character of the text is no blank, so all that stands before it is left as well.
    rw [List.append_nil] at h
    obtain ⟨init, last, rfl, hlast⟩ := exists_concat_of_trimEnd ht (h ▸ trimEnd_trimEnd _)
    rw [trim, hstart, ← List.append_assoc, List.append_assoc, List.singleton_append, trimEnd_append_cons _ _ hlast] at h
    have hcount := congrArg List.length h
    simp only [List.length_append, List.length_cons, List.length_nil] at hcount
    omega
  · have hbegins : t ++ c :: others <+: trimStart front ++ t ++ behind := by
      rw [← h, ← hstart]
      exact trimEnd_prefixOf _
    have hlong : t ++ [c] <+: trimStart front ++ t ++ behind := List.IsPrefix.trans ⟨others, by simp⟩ hbegins
    have hshort : t ++ [c] <+: trimStart front ++ t := by
      refine List.prefix_of_prefix_length_le hlong (List.prefix_append _ _) ?_
      simp only [List.length_append, List.length_singleton]
      omega
    have hmem : c ∈ trimStart front ++ t := hshort.subset (by simp)
    rw [List.mem_append] at hmem hc
    exact hc (hmem.imp_left fun hfront => (trimStart_suffix front).subset hfront)

/-- Nothing but blanks stands behind a text that is all that is left. -/
theorem forall_isBlank_of_trimEnd_append {t behind : Text} (ht : t ≠ []) (h : trimEnd (t ++ behind) = t) :
    ∀ c ∈ behind, isBlank c = true := by
  obtain ⟨init, last, rfl, hlast⟩ := exists_concat_of_trimEnd ht (h ▸ trimEnd_trimEnd _)
  rw [List.append_assoc, List.singleton_append, trimEnd_append_cons _ _ hlast] at h
  have hnil : trimEnd behind = [] := by simpa using h
  intro c hc
  exact List.dropWhile_eq_nil_iff.mp (List.reverse_eq_nil_iff.mp hnil) c (List.mem_reverse.mpr hc)

theorem trim_append_cons {c : Char} {a b : Text} (h : isBlank c = false) (ha : trimStart a = a) (hb : trimEnd b = b) :
    trim (a ++ c :: b) = a ++ c :: b := by
  rw [trim, trimStart_append_cons a b h, ha, trimEnd_append_cons a b h, hb]

theorem count_trimStart {c : Char} (s : Text) (h : isBlank c = false) : (trimStart s).count c = s.count c := by
  induction s with
  | nil => rfl
  | cons d s ih =>
    cases hd : isBlank d with
    | false => rw [trimStart_cons_of_not_isBlank s hd]
    | true =>
      have hne : d ≠ c := by
        rintro rfl
        simp [h] at hd
      rw [trimStart_cons_of_isBlank s hd, ih, List.count_cons_of_ne hne]

/-! ## Words -/

theorem pieces_append_cons {α : Type} {p : α → Bool} {c : α} (a b : List α) (h : p c = true) :
    pieces p (a ++ c :: b) = pieces p a ++ pieces p b := by
  induction a with
  | nil => simp [pieces, h]
  | cons d a ih =>
    cases hd : p d with
    | true => simp [pieces, hd, ih]
    | false =>
      obtain ⟨w, ws, hw⟩ := List.exists_cons_of_ne_nil (pieces_ne_nil p a)
      simp [pieces, hd, ih, hw]

/-- Words end at a blank. -/
theorem words_append_cons {c : Char} (a b : Text) (h : isBlank c = true) :
    words (a ++ c :: b) = words a ++ words b := by
  simp [words, pieces_append_cons a b h]

theorem words_cons_of_isBlank {c : Char} (s : Text) (h : isBlank c = true) : words (c :: s) = words s :=
  words_append_cons [] s h

/-- Blanks at the ends hold no words, nor do the blanks that they are exchanged for. -/
theorem words_map_trim {f : Char → Char} (hf : ∀ c, isBlank c = true → isBlank (f c) = true) (s : Text) :
    words ((trim s).map f) = words (s.map f) := by
  have hstart : ∀ t : Text, words ((trimStart t).map f) = words (t.map f) := by
    intro t
    induction t with
    | nil => rfl
    | cons c t ih =>
      cases hc : isBlank c with
      | false => rw [trimStart_cons_of_not_isBlank t hc]
      | true => rw [trimStart_cons_of_isBlank t hc, List.map_cons, words_cons_of_isBlank _ (hf c hc), ih]
  have hend : ∀ t : Text, words ((trimEnd t).map f) = words (t.map f) := by
    intro t
    induction t using List.reverseRecOn with
    | nil => rfl
    | append_singleton t c ih =>
      cases hc : isBlank c with
      | false => rw [trimEnd_append_cons t [] hc]; rfl
      | true =>
        have hdrop : trimEnd (t ++ [c]) = trimEnd t := by simp [trimEnd, hc]
        rw [hdrop, ih, List.map_append, List.map_singleton, words_append_cons _ [] (hf c hc)]
        simp [words, pieces]
  rw [trim, hend, hstart]

/-! ## Squeezing -/

/-- The text with one space for each run of blanks, those at its ends too. -/
def squeeze : Text → Text
  | [] => []
  | c :: rest => if isBlank c then ' ' :: trimStart (squeeze rest) else c :: squeeze rest

theorem squeeze_cons_of_isBlank {c : Char} (s : Text) (h : isBlank c = true) :
    squeeze (c :: s) = ' ' :: trimStart (squeeze s) := by
  simp [squeeze, h]

theorem squeeze_cons_of_not_isBlank {c : Char} (s : Text) (h : isBlank c = false) :
    squeeze (c :: s) = c :: squeeze s := by
  simp [squeeze, h]

/-- A run of blanks ends at any other character. -/
theorem squeeze_append_cons {c : Char} (a b : Text) (h : isBlank c = false) :
    squeeze (a ++ c :: b) = squeeze a ++ c :: squeeze b := by
  induction a with
  | nil => exact squeeze_cons_of_not_isBlank b h
  | cons d a ih =>
    cases hd : isBlank d with
    | false =>
      rw [List.cons_append, squeeze_cons_of_not_isBlank _ hd, squeeze_cons_of_not_isBlank _ hd, ih, List.cons_append]
    | true =>
      rw [List.cons_append, squeeze_cons_of_isBlank _ hd, squeeze_cons_of_isBlank _ hd, ih,
        trimStart_append_cons _ _ h, List.cons_append]

theorem mem_squeeze {c : Char} {s : Text} (h : c ∈ squeeze s) : c ∈ s ∨ c = ' ' := by
  induction s with
  | nil => exact Or.inl h
  | cons d s ih =>
    cases hd : isBlank d with
    | false =>
      rw [squeeze_cons_of_not_isBlank s hd] at h
      obtain rfl | hrest := List.mem_cons.mp h
      · exact Or.inl List.mem_cons_self
      · exact (ih hrest).imp_left (List.mem_cons_of_mem d)
    | true =>
      rw [squeeze_cons_of_isBlank s hd] at h
      obtain rfl | hrest := List.mem_cons.mp h
      · exact Or.inr rfl
      · exact (ih ((trimStart_suffix _).subset hrest)).imp_left (List.mem_cons_of_mem d)

/-- The words joined by spaces are what is left of the squeezed text without the spaces at its ends. -/
theorem collapse_eq_trim_squeeze (s : Text) : collapse s = trim (squeeze s) := by
  have hblank : isBlank ' ' = true := rfl
  induction s with
  | nil => rfl
  | cons c s ih =>
    rw [collapse] at ih ⊢
    cases hc : isBlank c with
    | true =>
      rw [words_cons_of_isBlank s hc, ih, squeeze_cons_of_isBlank s hc, trim_cons_of_isBlank _ hblank, trim, trim,
        trimStart_trimStart]
    | false =>
      rw [squeeze_cons_of_not_isBlank s hc, trim_cons_of_not_isBlank _ hc]
      cases s with
      | nil => simp [words, pieces, hc, joinWith, squeeze, trimEnd]
      | cons d s =>
        cases hd : isBlank d with
        | true =>
          have hwords : words (c :: d :: s) = [c] :: words s := by
            simpa [words, pieces, hc] using words_append_cons [c] s hd
          rw [words_cons_of_isBlank s hd] at ih
          rw [squeeze_cons_of_isBlank s hd] at ih ⊢
          rw [trim_cons_of_isBlank _ hblank, trim, trimStart_trimStart] at ih
          rw [hwords, trimEnd_cons_of_isBlank _ hblank, ← ih]
          cases hrest : words s with
          | nil => simp [joinWith]
          | cons w ws =>
            have hw : w ≠ [] := by
              have hmem : w ∈ words s := by simp [hrest]
              simpa [words] using (List.mem_filter.mp hmem).2
            have hne : joinWith [' '] (w :: ws) ≠ [] := by
              rw [joinWith_cons]
              simp [hw]
            simp [joinWith, hne]
        | false =>
          obtain ⟨w, ws, hpieces⟩ := List.exists_cons_of_ne_nil (pieces_ne_nil isBlank s)
          rw [squeeze_cons_of_not_isBlank s hd, trim_cons_of_not_isBlank _ hd] at ih
          rw [squeeze_cons_of_not_isBlank s hd, trimEnd_cons _ hd, ← ih]
          simp [words, pieces, hc, hd, hpieces, joinWith_cons]

/-! ## Single spaces -/

/-- Whether the blanks of the text are spaces, with other characters between them. -/
structure IsSpaced (s : Text) : Prop where
  single : s.IsChain fun c d => isBlank c = true → isBlank d = false
  space : ∀ c ∈ s, isBlank c = true → c = ' '

theorem IsSpaced.within {s t : Text} (ht : IsSpaced t) (h : s <:+: t) : IsSpaced s :=
  have hsingle := List.IsChain.infix ht.single h
  ⟨hsingle, fun c hc => ht.space c (h.subset hc)⟩

theorem isSpaced_nil : IsSpaced [] := ⟨List.isChain_nil, fun _ hc => absurd hc List.not_mem_nil⟩

/-- Texts on both sides of a character that is not blank. -/
theorem isSpaced_append_cons {c : Char} {a b : Text} (h : isBlank c = false) :
    IsSpaced (a ++ c :: b) ↔ IsSpaced a ∧ IsSpaced b := by
  constructor
  · intro hs
    exact ⟨hs.within ⟨[], c :: b, by simp⟩, hs.within ⟨a ++ [c], [], by simp⟩⟩
  · rintro ⟨ha, hb⟩
    constructor
    · refine List.isChain_append.mpr ⟨ha.single, ?_, ?_⟩
      · rw [List.isChain_cons]
        exact ⟨fun d _ hc => absurd hc (by simp [h]), hb.single⟩
      · intro x _ y hy _
        obtain rfl : c = y := by simpa using hy
        exact h
    · intro d hd hblank
      obtain hmem | rfl | hmem : d ∈ a ∨ d = c ∨ d ∈ b := by simpa using hd
      · exact ha.space d hmem hblank
      · simp [h] at hblank
      · exact hb.space d hmem hblank

theorem isSpaced_cons_of_not_isBlank {c : Char} {s : Text} (h : isBlank c = false) (hs : IsSpaced s) :
    IsSpaced (c :: s) := by
  rw [← List.nil_append (c :: s), isSpaced_append_cons h]
  exact ⟨isSpaced_nil, hs⟩

theorem isSpaced_squeeze (s : Text) : IsSpaced (squeeze s) := by
  induction s with
  | nil => exact isSpaced_nil
  | cons c s ih =>
    cases hc : isBlank c with
    | false =>
      rw [squeeze_cons_of_not_isBlank s hc]
      exact isSpaced_cons_of_not_isBlank hc ih
    | true =>
      rw [squeeze_cons_of_isBlank s hc]
      have hrest : IsSpaced (trimStart (squeeze s)) := ih.within (trimStart_suffix _).isInfix
      constructor
      · rw [List.isChain_cons]
        refine ⟨fun d hd _ => ?_, hrest.single⟩
        obtain ⟨rest, hfirst⟩ := List.head?_eq_some_iff.mp hd
        exact head_trimStart hfirst
      · intro d hd hblank
        obtain rfl | hmem := List.mem_cons.mp hd
        · rfl
        · exact hrest.space d hmem hblank

theorem squeeze_eq_self {s : Text} (h : IsSpaced s) : squeeze s = s := by
  induction s with
  | nil => rfl
  | cons c s ih =>
    have hrest := ih (h.within ⟨[c], [], by simp⟩)
    cases hc : isBlank c with
    | false => rw [squeeze_cons_of_not_isBlank s hc, hrest]
    | true =>
      have hstart : trimStart s = s := by
        cases s with
        | nil => rfl
        | cons d s =>
          have hpair := (List.isChain_cons_cons.mp h.single).1
          exact trimStart_cons_of_not_isBlank s (hpair hc)
      rw [squeeze_cons_of_isBlank s hc, hrest, hstart, h.space c List.mem_cons_self hc]

/-- A text with single spaces is trimmed and nothing more. -/
theorem collapse_eq_trim {s : Text} (h : IsSpaced s) : collapse s = trim s := by
  rw [collapse_eq_trim_squeeze, squeeze_eq_self h]

end PageMarkup.Text
