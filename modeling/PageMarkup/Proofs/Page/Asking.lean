import PageMarkup.Proofs.Page.SpanForest

/-!
# Who is asked about

The nodes are asked about in one pass, in which a node inside of a replaced one is passed over. The pass over a nested
forest is the pass over its first node, over the nodes inside of it and over those behind it, so it asks what a
rewriting from the top asks (`SpanForest.asked_toList_append`). In other words, it asks about the eligible nodes that
are inside of no replaced one (`mem_asked_iff`).
-/
namespace PageMarkup

open Scan (Span)

variable {α : Type} {span : α → Span} {eligible : α → Bool} {edit : α → Option Text}

/-! ## Asking about nodes -/

theorem answerOf_eq_some {n : α} {text : Text} :
    answerOf eligible edit n = some text ↔ eligible n = true ∧ edit n = some text := by
  simp [answerOf]

/-- The nodes that are asked about with their answers, where an answer hangs on nothing but its node. -/
def asked (span : α → Span) (eligible : α → Bool) (edit : α → Option Text) (covered : List Span) (nodes : List α) :
    List (α × Option Text) :=
  Id.run (consult (m := Id) span eligible edit covered nodes)

@[simp] theorem asked_nil (covered : List Span) : asked span eligible edit covered [] = [] := rfl

theorem asked_cons_of_free {covered : List Span} {n : α} (rest : List α) (heligible : eligible n = true)
    (hfree : ∀ c ∈ covered, c.covers (span n) = false) :
    asked span eligible edit covered (n :: rest) =
      (n, edit n) :: asked span eligible edit (if (edit n).isSome then covered ++ [span n] else covered) rest := by
  have hany : covered.any (·.covers (span n)) = false := by
    rw [List.any_eq_false]
    intro c hc
    simp [hfree c hc]
  rw [asked, consult, heligible, hany]
  rfl

theorem asked_cons_of_not_eligible (covered : List Span) {n : α} (rest : List α) (h : eligible n = false) :
    asked span eligible edit covered (n :: rest) = asked span eligible edit covered rest := by
  rw [asked, consult, h]
  rfl

/-- Nothing changes behind a node without a replacement, whether it is asked about or not. -/
theorem asked_cons_of_none {covered : List Span} {n : α} (rest : List α) (h : answerOf eligible edit n = none)
    (hfree : ∀ c ∈ covered, c.covers (span n) = false) :
    asked span eligible edit covered (n :: rest) =
      (if eligible n then [(n, none)] else []) ++ asked span eligible edit covered rest := by
  unfold answerOf at h
  split at h
  · rename_i heligible
    rw [asked_cons_of_free rest heligible hfree, h, if_pos heligible]
    rfl
  · rename_i hskipped
    rw [asked_cons_of_not_eligible covered rest (by simpa using hskipped), if_neg hskipped]
    rfl

theorem asked_cons_of_covered {covered : List Span} {n : α} (rest : List α) {c : Span} (hc : c ∈ covered)
    (h : c.covers (span n) = true) :
    asked span eligible edit covered (n :: rest) = asked span eligible edit covered rest := by
  have hany : covered.any (·.covers (span n)) = true := List.any_eq_true.mpr ⟨c, hc, h⟩
  rw [asked, consult, hany, Bool.not_true, Bool.and_false]
  rfl

/-- A node that is skipped or inside of a replaced one is passed over. -/
theorem asked_cons_of_passed {covered : List Span} {n : α} (rest : List α)
    (h : ¬(eligible n = true ∧ ∀ c ∈ covered, c.covers (span n) = false)) :
    asked span eligible edit covered (n :: rest) = asked span eligible edit covered rest := by
  by_cases heligible : eligible n = true
  · obtain ⟨c, hc, hcovers⟩ : ∃ c ∈ covered, c.covers (span n) = true := by
      by_contra hnone
      exact h ⟨heligible, fun c hc => Bool.eq_false_iff.mpr fun hcovers => hnone ⟨c, hc, hcovers⟩⟩
    exact asked_cons_of_covered rest hc hcovers
  · exact asked_cons_of_not_eligible covered rest (by simpa using heligible)

/-- Nodes inside of a replaced span are not asked about. -/
theorem asked_append_of_covered {covered : List Span} {c : Span} (hc : c ∈ covered) {nodes : List α}
    (h : ∀ n ∈ nodes, c.covers (span n) = true) (behind : List α) :
    asked span eligible edit covered (nodes ++ behind) = asked span eligible edit covered behind := by
  induction nodes with
  | nil => rfl
  | cons n nodes ih =>
    rw [List.cons_append, asked_cons_of_covered _ hc (h n List.mem_cons_self)]
    exact ih fun m hm => h m (List.mem_cons_of_mem _ hm)

theorem replacementsOf_cons_some (n : α) (text : Text) (answers : List (α × Option Text)) :
    replacementsOf span ((n, some text) :: answers) = ⟨span n, text⟩ :: replacementsOf span answers := by
  simp [replacementsOf]

theorem replacementsOf_none (n : α) (asks : Bool) :
    replacementsOf span (if asks then [(n, none)] else []) = [] := by
  cases asks <;> rfl

theorem replacementsOf_append (answers others : List (α × Option Text)) :
    replacementsOf span (answers ++ others) = replacementsOf span answers ++ replacementsOf span others := by
  simp [replacementsOf]

/-- The spans of the nodes that were replaced. -/
def replacedSpans (span : α → Span) (answers : List (α × Option Text)) : List Span :=
  (replacementsOf span answers).map (·.span)

theorem replacedSpans_append (answers others : List (α × Option Text)) :
    replacedSpans span (answers ++ others) = replacedSpans span answers ++ replacedSpans span others := by
  rw [replacedSpans, replacementsOf_append, List.map_append]
  rfl

theorem replacedSpans_cons_some (n : α) (text : Text) (answers : List (α × Option Text)) :
    replacedSpans span ((n, some text) :: answers) = span n :: replacedSpans span answers := by
  rw [replacedSpans, replacementsOf_cons_some]
  rfl

theorem replacedSpans_none (n : α) (asks : Bool) :
    replacedSpans span (if asks then [(n, none)] else []) = [] := by
  rw [replacedSpans, replacementsOf_none]
  rfl

theorem mem_of_mem_replacedSpans {answers : List (α × Option Text)} {c : Span} (h : c ∈ replacedSpans span answers) :
    ∃ n ∈ answers.map (·.1), span n = c := by
  obtain ⟨r, hr, rfl⟩ := List.mem_map.mp h
  obtain ⟨⟨n, answer⟩, hn, hanswer⟩ := List.mem_filterMap.mp hr
  obtain ⟨text, -, rfl⟩ := Option.map_eq_some_iff.mp hanswer
  exact ⟨n, List.mem_map_of_mem hn, rfl⟩

/-- A node behind a span is not covered by it, nor by the spans inside of it. -/
theorem covers_eq_false_of_behind {c outer inner : Span} (hc : outer.covers c) (hnonempty : inner.start < inner.stop)
    (hbehind : outer.stop ≤ inner.start) : c.covers inner = false := by
  rw [Bool.eq_false_iff, ne_eq, Span.covers_iff]
  rw [Span.covers_iff] at hc
  omega

namespace SpanForest

theorem answers_of_some {top : α} {text : Text} (inner rest : SpanForest α)
    (h : answerOf eligible edit top = some text) :
    (node top inner rest).answers eligible edit = (top, some text) :: rest.answers eligible edit := by
  obtain ⟨heligible, hedit⟩ := answerOf_eq_some.mp h
  simp [answers, h, heligible, hedit]

theorem answers_of_none {top : α} (inner rest : SpanForest α) (h : answerOf eligible edit top = none) :
    (node top inner rest).answers eligible edit =
      (if eligible top then [(top, none)] else []) ++ (inner.answers eligible edit ++ rest.answers eligible edit) := by
  unfold answerOf at h
  split at h
  · rename_i heligible
    simp [answers, answerOf, heligible, h]
  · rename_i hskipped
    simp [answers, answerOf, hskipped]

/-- The nodes that are asked about are nodes of the forest, each asked about once and in their order. -/
theorem answers_sublist (forest : SpanForest α) : ((forest.answers eligible edit).map (·.1)).Sublist forest.toList := by
  induction forest with
  | nil => exact List.Sublist.refl _
  | node top inner rest ihInner ihRest =>
    cases hanswer : answerOf eligible edit top with
    | some text =>
      rw [answers_of_some inner rest hanswer, List.map_cons, toList]
      exact (ihRest.trans (List.sublist_append_right _ _)).cons_cons top
    | none =>
      rw [answers_of_none inner rest hanswer, List.map_append, List.map_append, toList]
      have hbelow := List.Sublist.append ihInner ihRest
      split
      · exact hbelow.cons_cons top
      · exact hbelow.cons top

/-- A pass over the nodes of a forest asks what a rewriting from the top asks, and covers what is replaced. -/
theorem asked_toList_append {forest : SpanForest α} (hnested : forest.Nested span)
    (hnonempty : ∀ n ∈ forest.toList, (span n).start < (span n).stop) {covered : List Span}
    (hfree : ∀ c ∈ covered, ∀ n ∈ forest.toList, c.covers (span n) = false) (behind : List α) :
    asked span eligible edit covered (forest.toList ++ behind) =
      forest.answers eligible edit ++
        asked span eligible edit (covered ++ replacedSpans span (forest.answers eligible edit)) behind := by
  induction forest generalizing covered behind with
  | nil => simp [toList, answers, replacedSpans, replacementsOf]
  | node top inner rest ihInner ihRest =>
    obtain ⟨hinside, hbehind, hinnerNested, hrestNested⟩ := hnested
    simp only [toList, List.mem_cons, List.mem_append] at hnonempty hfree
    have hinnerNonempty : ∀ n ∈ inner.toList, (span n).start < (span n).stop :=
      fun n hn => hnonempty n (Or.inr (Or.inl hn))
    have hrestNonempty : ∀ n ∈ rest.toList, (span n).start < (span n).stop :=
      fun n hn => hnonempty n (Or.inr (Or.inr hn))
    have htopFree : ∀ c ∈ covered, c.covers (span top) = false := fun c hc => hfree c hc top (Or.inl rfl)
    have hinnerFree : ∀ c ∈ covered, ∀ n ∈ inner.toList, c.covers (span n) = false :=
      fun c hc n hn => hfree c hc n (Or.inr (Or.inl hn))
    have hrestFree : ∀ c ∈ covered, ∀ n ∈ rest.toList, c.covers (span n) = false :=
      fun c hc n hn => hfree c hc n (Or.inr (Or.inr hn))
    -- The spans of `top` and of what is inside of it cover nothing that stands behind.
    have hrestApart : ∀ c, (span top).covers c → ∀ n ∈ rest.toList, c.covers (span n) = false :=
      fun c hc n hn => covers_eq_false_of_behind hc (hrestNonempty n hn) (hbehind n hn)
    rw [toList, List.cons_append, List.append_assoc]
    cases hanswer : answerOf eligible edit top with
    | some text =>
      obtain ⟨heligible, hedit⟩ := answerOf_eq_some.mp hanswer
      have hself : (span top).covers (span top) := (Span.covers_iff _ _).mpr ⟨Nat.le_refl _, Nat.le_refl _⟩
      have hinnerCovered : ∀ n ∈ inner.toList, (span top).covers (span n) = true := by
        intro n hn
        have hencloses := hinside n hn
        rw [Span.encloses_iff] at hencloses
        exact (Span.covers_iff _ _).mpr hencloses.1
      have hfreeNow : ∀ c ∈ covered ++ [span top], ∀ n ∈ rest.toList, c.covers (span n) = false := by
        intro c hc
        obtain hc | hc := List.mem_append.mp hc
        · exact hrestFree c hc
        · exact hrestApart c (List.mem_singleton.mp hc ▸ hself)
      rw [asked_cons_of_free _ heligible htopFree, hedit, Option.isSome_some, if_pos rfl,
        asked_append_of_covered (List.mem_append_right _ List.mem_cons_self) hinnerCovered,
        ihRest hrestNested hrestNonempty hfreeNow, answers_of_some inner rest hanswer, replacedSpans_cons_some,
        List.append_assoc, List.singleton_append, List.cons_append]
    | none =>
      have hinnerCovered : ∀ c ∈ replacedSpans span (inner.answers eligible edit), (span top).covers c := by
        intro c hc
        obtain ⟨n, hn, rfl⟩ := mem_of_mem_replacedSpans hc
        have hencloses := hinside n ((answers_sublist inner).subset hn)
        rw [Span.encloses_iff] at hencloses
        exact (Span.covers_iff _ _).mpr hencloses.1
      have hfreeNow : ∀ c ∈ covered ++ replacedSpans span (inner.answers eligible edit), ∀ n ∈ rest.toList,
          c.covers (span n) = false := by
        intro c hc
        obtain hc | hc := List.mem_append.mp hc
        · exact hrestFree c hc
        · exact hrestApart c (hinnerCovered c hc)
      rw [asked_cons_of_none _ hanswer htopFree, ihInner hinnerNested hinnerNonempty hinnerFree,
        ihRest hrestNested hrestNonempty hfreeNow, answers_of_none inner rest hanswer, replacedSpans_append,
        replacedSpans_append, replacedSpans_none]
      simp only [List.append_assoc, List.nil_append]

end SpanForest

/-! ## Nodes inside of no replaced one -/

theorem Span.encloses_self (a : Span) : a.encloses a = false := by simp [Scan.Span.encloses]

theorem Span.encloses_eq_false {a b : Span} (h : a.covers b = false) : a.encloses b = false := by
  simp [Scan.Span.encloses, h]

/-- A span encloses what it covers, unless it is covered in turn. -/
theorem Span.encloses_eq_covers {a b : Span} (h : b.covers a = false) : a.encloses b = a.covers b := by
  have hne : a ≠ b := by
    rintro rfl
    simp [Scan.Span.covers] at h
  simp [Scan.Span.encloses, hne]

/-- A node is asked about if it is eligible and inside of no replaced node, where no node is inside of a later one. -/
theorem mem_asked_iff {nodes : List α} (hsorted : nodes.Pairwise fun a b => (span b).covers (span a) = false)
    (covered : List Span) (n : α) :
    n ∈ (asked span eligible edit covered nodes).map (·.1) ↔
      n ∈ nodes ∧ eligible n = true ∧ (∀ c ∈ covered, c.covers (span n) = false) ∧
        ∀ r ∈ (asked span eligible edit covered nodes).map (·.1), (edit r).isSome = true →
          (span r).encloses (span n) = false := by
  induction nodes generalizing covered n with
  | nil => simp
  | cons a rest ih =>
    obtain ⟨hfirst, hrest⟩ := List.pairwise_cons.mp hsorted
    by_cases hask : eligible a = true ∧ ∀ c ∈ covered, c.covers (span a) = false
    · obtain ⟨heligible, hfree⟩ := hask
      rw [asked_cons_of_free rest heligible hfree, List.map_cons]
      generalize hcovered : (if (edit a).isSome then covered ++ [span a] else covered) = covered'
      have hmem : ∀ c, c ∈ covered' ↔ c ∈ covered ∨ ((edit a).isSome = true ∧ c = span a) := by
        intro c
        rw [← hcovered]
        by_cases hsome : (edit a).isSome = true
        · simp [hsome]
        · simp [hsome]
      have hih := ih hrest covered' n
      constructor
      · intro hn
        obtain rfl | hn := List.mem_cons.mp hn
        · refine ⟨List.mem_cons_self, heligible, hfree, ?_⟩
          intro r hr _
          obtain rfl | hr := List.mem_cons.mp hr
          · exact Span.encloses_self _
          · exact Span.encloses_eq_false (hfirst r ((ih hrest covered' r).mp hr).1)
        · obtain ⟨hnRest, hnEligible, hnFree, hnApart⟩ := hih.mp hn
          refine ⟨List.mem_cons_of_mem _ hnRest, hnEligible, fun c hc => hnFree c ((hmem c).mpr (Or.inl hc)), ?_⟩
          intro r hr hsome
          obtain rfl | hr := List.mem_cons.mp hr
          · exact Span.encloses_eq_false (hnFree (span r) ((hmem _).mpr (Or.inr ⟨hsome, rfl⟩)))
          · exact hnApart r hr hsome
      · rintro ⟨hn, hnEligible, hnFree, hnApart⟩
        obtain rfl | hn := List.mem_cons.mp hn
        · exact List.mem_cons_self
        · refine List.mem_cons_of_mem _ (hih.mpr ⟨hn, hnEligible, ?_, ?_⟩)
          · intro c hc
            obtain hc | ⟨hsome, rfl⟩ := (hmem c).mp hc
            · exact hnFree c hc
            · rw [← Span.encloses_eq_covers (hfirst n hn)]
              exact hnApart a List.mem_cons_self hsome
          · exact fun r hr => hnApart r (List.mem_cons_of_mem _ hr)
    · rw [asked_cons_of_passed rest hask, ih hrest covered n]
      constructor
      · rintro ⟨hn, hrestOf⟩
        exact ⟨List.mem_cons_of_mem _ hn, hrestOf⟩
      · rintro ⟨hn, hnEligible, hnFree, hnApart⟩
        obtain rfl | hn := List.mem_cons.mp hn
        · exact absurd ⟨hnEligible, hnFree⟩ hask
        · exact ⟨hn, hnEligible, hnFree, hnApart⟩

end PageMarkup
