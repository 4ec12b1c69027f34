import PageMarkup.Page.Nodes
import PageMarkup.Proofs.Page.Asking
import PageMarkup.Proofs.Text.Search

/-!
# Replacing is rewriting from the top

The replacements of nodes are put in from the last to the first. A text with the replacements behind an index put in is
the same text in front of it, so those of a nested forest can be put in one tree after the other, and what they come to
is the rewriting of the forest from the top (`SpanForest.applyAll_answers`).
-/
namespace PageMarkup

open Scan (Span)

variable {α : Type} {span : α → Span} {eligible : α → Bool} {edit : α → Option Text}

/-! ## Putting replacements in -/

theorem Replacement.applyAll_append (rs others : List Replacement) (s : Text) :
    applyAll (rs ++ others) s = applyAll rs (applyAll others s) := List.foldr_append

theorem Replacement.applyAll_cons (r : Replacement) (rs : List Replacement) (s : Text) :
    applyAll (r :: rs) s = r.apply (applyAll rs s) := rfl

namespace SpanForest

theorem rewrite_of_some {top : α} {text : Text} (inner rest : SpanForest α) (s : Text) (lo hi : Nat)
    (h : answerOf eligible edit top = some text) :
    (node top inner rest).rewrite span eligible edit s lo hi =
      Text.slice lo (span top).start s ++ text ++ rest.rewrite span eligible edit s (span top).stop hi := by
  rw [rewrite, h]

theorem rewrite_of_none {top : α} (inner rest : SpanForest α) (s : Text) (lo hi : Nat)
    (h : answerOf eligible edit top = none) :
    (node top inner rest).rewrite span eligible edit s lo hi =
      Text.slice lo (span top).start s ++ inner.rewrite span eligible edit s (span top).start (span top).stop ++
        rest.rewrite span eligible edit s (span top).stop hi := by
  rw [rewrite, h]

/-- A rewriting up to an index hangs on the text up to there. -/
theorem rewrite_congr {forest : SpanForest α} (hnested : forest.Nested span) {s t : Text} {lo hi : Nat}
    (hstop : ∀ n ∈ forest.toList, (span n).start ≤ (span n).stop ∧ (span n).stop ≤ hi) (h : s.take hi = t.take hi) :
    forest.rewrite span eligible edit s lo hi = forest.rewrite span eligible edit t lo hi := by
  induction forest generalizing lo hi with
  | nil => exact Text.slice_congr lo h (Nat.le_refl hi)
  | node top inner rest ihInner ihRest =>
    obtain ⟨hinside, -, hinnerNested, hrestNested⟩ := hnested
    simp only [toList, List.mem_cons, List.mem_append] at hstop
    obtain ⟨htopStart, htopStop⟩ := hstop top (Or.inl rfl)
    have hbefore : Text.slice lo (span top).start s = Text.slice lo (span top).start t :=
      Text.slice_congr lo h (by omega)
    have hrest : rest.rewrite span eligible edit s (span top).stop hi =
        rest.rewrite span eligible edit t (span top).stop hi :=
      ihRest hrestNested (fun n hn => hstop n (Or.inr (Or.inr hn))) h
    cases hanswer : answerOf eligible edit top with
    | some text => rw [rewrite_of_some _ _ _ _ _ hanswer, rewrite_of_some _ _ _ _ _ hanswer, hbefore, hrest]
    | none =>
      have hinnerStop : ∀ n ∈ inner.toList, (span n).start ≤ (span n).stop ∧ (span n).stop ≤ (span top).stop := by
        intro n hn
        have hencloses := (Span.encloses_iff _ _).mp (hinside n hn)
        exact ⟨(hstop n (Or.inr (Or.inl hn))).1, hencloses.1.2⟩
      rw [rewrite_of_none _ _ _ _ _ hanswer, rewrite_of_none _ _ _ _ _ hanswer, hbefore, hrest,
        ihInner hinnerNested hinnerStop (Text.take_congr h htopStop)]

/-- The replacements put in from the last to the first rewrite the text of the forest, and leave what stands before and
behind it. -/
theorem applyAll_answers {forest : SpanForest α} (hnested : forest.Nested span) {s : Text} {lo hi : Nat}
    (hbounds : ∀ n ∈ forest.toList, lo ≤ (span n).start ∧ (span n).start ≤ (span n).stop ∧ (span n).stop ≤ hi)
    (hlo : lo ≤ hi) (hhi : hi ≤ s.length) :
    Replacement.applyAll (replacementsOf span (forest.answers eligible edit)) s =
      s.take lo ++ forest.rewrite span eligible edit s lo hi ++ s.drop hi := by
  induction forest generalizing s lo hi with
  | nil =>
    rw [rewrite, Text.take_append_slice hlo, List.take_append_drop]
    rfl
  | node top inner rest ihInner ihRest =>
    obtain ⟨hinside, hbehind, hinnerNested, hrestNested⟩ := hnested
    simp only [toList, List.mem_cons, List.mem_append] at hbounds
    obtain ⟨htopLo, htopStart, htopHi⟩ := hbounds top (Or.inl rfl)
    have hrestBounds : ∀ n ∈ rest.toList,
        (span top).stop ≤ (span n).start ∧ (span n).start ≤ (span n).stop ∧ (span n).stop ≤ hi :=
      fun n hn => ⟨hbehind n hn, (hbounds n (Or.inr (Or.inr hn))).2⟩
    have hinnerBounds : ∀ n ∈ inner.toList,
        (span top).start ≤ (span n).start ∧ (span n).start ≤ (span n).stop ∧ (span n).stop ≤ (span top).stop := by
      intro n hn
      have hencloses := (Span.encloses_iff _ _).mp (hinside n hn)
      exact ⟨hencloses.1.1, (hbounds n (Or.inr (Or.inl hn))).2.1, hencloses.1.2⟩
    -- Behind `top` everything is put in before `top` or anything inside of it is.
    have hrest := ihRest hrestNested hrestBounds htopHi hhi
    have hlength : (s.take (span top).stop).length = (span top).stop := by
      rw [List.length_take, Nat.min_eq_left (by omega)]
    generalize hafter : Replacement.applyAll (replacementsOf span (rest.answers eligible edit)) s = after at hrest
    have hdrop : after.drop (span top).stop = rest.rewrite span eligible edit s (span top).stop hi ++ s.drop hi := by
      rw [hrest, List.append_assoc, List.drop_left' hlength]
    have htake : ∀ k ≤ (span top).stop, after.take k = s.take k := by
      intro k hk
      rw [hrest, List.append_assoc, List.take_append_of_le_length (by omega), List.take_take, Nat.min_eq_left hk]
    cases hanswer : answerOf eligible edit top with
    | some text =>
      rw [answers_of_some inner rest hanswer, replacementsOf_cons_some, Replacement.applyAll_cons, hafter,
        Replacement.apply, hdrop, htake _ htopStart, rewrite_of_some _ _ _ _ _ hanswer, ← Text.take_append_slice htopLo]
      simp only [List.append_assoc]
    | none =>
      have hafterLength : (span top).stop ≤ after.length := by
        rw [hrest, List.length_append, List.length_append, hlength]
        omega
      have hinner := ihInner hinnerNested hinnerBounds htopStart hafterLength
      have hsame : inner.rewrite span eligible edit after (span top).start (span top).stop =
          inner.rewrite span eligible edit s (span top).start (span top).stop :=
        rewrite_congr hinnerNested (fun n hn => (hinnerBounds n hn).2) (htake _ (Nat.le_refl _))
      rw [answers_of_none inner rest hanswer, replacementsOf_append, replacementsOf_append, replacementsOf_none,
        List.nil_append, Replacement.applyAll_append, hafter, hinner, hsame, hdrop, htake _ htopStart,
        rewrite_of_none _ _ _ _ _ hanswer, ← Text.take_append_slice htopLo]
      simp only [List.append_assoc]

end SpanForest

/-! ## Replacing nodes -/

/-- Replacing nodes of a text with the outcome `result` is the rewriting of their forest from the top. The outcome is a
text and the nodes that were asked about. -/
structure RewritesFromTop (span : α → Span) (eligible : α → Bool) (edit : α → Option Text) (s : Text) (nodes : List α)
    (result : Text × List α) : Prop where
  nested : (SpanForest.ofNodes span nodes).Nested span
  toList_perm : (SpanForest.ofNodes span nodes).toList.Perm nodes
  text_eq : result.1 = (SpanForest.ofNodes span nodes).rewrite span eligible edit s 0 s.length
  asked_eq : result.2 = ((SpanForest.ofNodes span nodes).answers eligible edit).map (·.1)
  asked_sublist : result.2.Sublist (SpanForest.ofNodes span nodes).toList
  mem_asked_iff : ∀ n, n ∈ result.2 ↔ n ∈ nodes ∧ eligible n = true ∧
    ∀ r ∈ result.2, (edit r).isSome = true → (span r).encloses (span n) = false

/-- No node is inside of one that comes later in the order in which they are asked about. -/
theorem pairwise_covers_eq_false {s : Text} {nodes : List α} (hnested : SpansNested span s nodes) :
    (SpanForest.ofNodes span nodes).toList.Pairwise fun a b => (span b).covers (span a) = false := by
  have hsorted := SpanForest.pairwise_mergeSort_outerFirst span nodes
  have hdistinct := (hnested.perm (SpanForest.toList_ofNodes_perm span nodes)).distinct
  rw [← SpanForest.toList_ofNodes] at hsorted
  refine (hsorted.and hdistinct).imp ?_
  intro a b hab
  obtain ⟨horder, hne⟩ := hab
  rw [Bool.eq_false_iff]
  intro hcovers
  have hback : (span a).covers (span b) = true := by
    rw [Span.outerFirst_iff] at horder
    rw [Span.covers_iff] at hcovers ⊢
    omega
  exact hne (Span.eq_of_covers hback hcovers)

/-- Replacing nodes that are nested or apart is the rewriting of their forest from the top. -/
theorem rewritesFromTop_replaceNodes {s : Text} {nodes : List α} (hnested : SpansNested span s nodes)
    (eligible : α → Bool) (edit : α → Option Text) :
    RewritesFromTop span eligible edit s nodes (Id.run (replaceNodes (m := Id) span eligible edit s nodes)) := by
  have hperm := SpanForest.toList_ofNodes_perm span nodes
  have hforest := SpanForest.nested_ofNodes hnested
  have hall := hnested.perm hperm
  generalize hof : SpanForest.ofNodes span nodes = forest at hperm hforest hall
  have hasked : asked span eligible edit [] forest.toList = forest.answers eligible edit := by
    have hpass : asked span eligible edit [] (forest.toList ++ []) = forest.answers eligible edit ++ [] :=
      SpanForest.asked_toList_append hforest hall.nonempty (by simp) []
    simpa using hpass
  have hrun : Id.run (replaceNodes (m := Id) span eligible edit s nodes) =
      (Replacement.applyAll (replacementsOf span (asked span eligible edit [] forest.toList)) s,
        (asked span eligible edit [] forest.toList).map (·.1)) := by
    rw [← hof, SpanForest.toList_ofNodes]
    rfl
  have htext : Replacement.applyAll (replacementsOf span (forest.answers eligible edit)) s =
      s.take 0 ++ forest.rewrite span eligible edit s 0 s.length ++ s.drop s.length := by
    refine SpanForest.applyAll_answers hforest ?_ (Nat.zero_le _) (Nat.le_refl _)
    intro n hn
    exact ⟨Nat.zero_le _, Nat.le_of_lt (hall.nonempty n hn), hall.inText n hn⟩
  have hmem : ∀ n, n ∈ (asked span eligible edit [] forest.toList).map (·.1) ↔
      n ∈ forest.toList ∧ eligible n = true ∧ (∀ c ∈ [], Scan.Span.covers c (span n) = false) ∧
        ∀ r ∈ (asked span eligible edit [] forest.toList).map (·.1), (edit r).isSome = true →
          (span r).encloses (span n) = false :=
    mem_asked_iff (hof ▸ pairwise_covers_eq_false hnested) []
  rw [hasked] at hrun hmem
  rw [hrun]
  subst hof
  refine ⟨hforest, hperm, ?_, rfl, SpanForest.answers_sublist _, ?_⟩
  · simpa using htext
  · intro n
    simpa [hperm.mem_iff] using hmem n

/-- Replacing nodes in double braces and replacing links are rewritings from the top, whatever the order in which the
nodes are given. -/
theorem Page.rewritesFromTop_replace (page : Page) (includeSkipped : Bool) :
    (∀ (nodes : List BraceNode) (edit : BraceNode → Option Text), SpansNested (·.record.span) page.text nodes →
      RewritesFromTop (·.record.span) (fun node => includeSkipped || !node.record.skipped) edit page.text nodes
        (Id.run (page.replaceTemplates (m := Id) nodes edit includeSkipped))) ∧
    (∀ (nodes : List LinkNode) (edit : LinkNode → Option Text), SpansNested (·.record.span) page.text nodes →
      RewritesFromTop (·.record.span) (fun node => includeSkipped || !node.record.skipped) edit page.text nodes
        (Id.run (page.replaceLinks (m := Id) nodes edit includeSkipped))) := by
  constructor
  · intro nodes edit hnested
    exact rewritesFromTop_replaceNodes hnested _ edit
  · intro nodes edit hnested
    exact rewritesFromTop_replaceNodes hnested _ edit

/-- A text with a construct in braces inside of another one, and two links. -/
def nestedSamplePage : Page where
  text := "\x7b\x7ba|\x7b\x7bb\x7d\x7d\x7d\x7d [[c]][[d]]".toList
  site := none
  skipTags := []

/-- A raw template in the text. -/
def rawTemplateAt (title : Text) (span : Span) (skipped : Bool) : BraceNode :=
  .raw { title, params := .empty, scannedParams := .empty, site := none
         record := { title, rawTitle := title, written := Text.slice span.start span.stop nestedSamplePage.text
                     span, skipped } }

/-- A raw link in the text. -/
def rawLinkAt (title : Text) (span : Span) : LinkNode :=
  .raw { title, display := none, site := none, scannedDisplay := none
         record := { title, rawTitle := title, written := Text.slice span.start span.stop nestedSamplePage.text
                     span } }

/-- The constructs in braces of `nestedSamplePage`, the inner one first. The outer one is skipped. -/
def nestedSample : List BraceNode := [rawTemplateAt "b".toList ⟨4, 9⟩ false, rawTemplateAt "a".toList ⟨0, 11⟩ true]

/-- The links of `nestedSamplePage`. -/
def linksSample : List LinkNode := [rawLinkAt "d".toList ⟨17, 22⟩, rawLinkAt "c".toList ⟨12, 17⟩]

theorem Page.rewritesFromTop_replace_nestedSample :
    RewritesFromTop (·.record.span) (fun node => !node.record.skipped) (fun node => some node.titleText)
        nestedSamplePage.text nestedSample
        (Id.run (nestedSamplePage.replaceTemplates (m := Id) nestedSample fun node => some node.titleText)) ∧
      RewritesFromTop (·.record.span) (fun node => !node.record.skipped) (fun node => some node.titleText)
        nestedSamplePage.text linksSample
        (Id.run (nestedSamplePage.replaceLinks (m := Id) linksSample fun node => some node.titleText)) := by
  obtain ⟨hbraces, hlinks⟩ := rewritesFromTop_replace nestedSamplePage false
  constructor
  · refine hbraces nestedSample (fun node => some node.titleText) ⟨?_, ?_, ?_, ?_⟩
    all_goals decide
  · refine hlinks linksSample (fun node => some node.titleText) ⟨?_, ?_, ?_, ?_⟩
    all_goals decide

end PageMarkup
