import Mathlib.Data.List.TakeWhile
import PageMarkup.Page.Replacement

/-!
# The forest of nested spans

Nodes whose spans are pairwise nested or apart form a forest: each node holds the nodes inside of its span, and the
others stand before or behind it. `SpanForest.ofNodes` builds it from the nodes in any order. `rewrite` is the
rewriting from the top that replacements are meant to come to: a node gives way to its replacement, and a node that
has none stays, with the nodes inside of it rewritten in place. `answers` lists the nodes that it asks about.
-/
namespace PageMarkup

open Scan (Span)

/-- A node with the forest inside of it, and the forest behind it. -/
inductive SpanForest (α : Type) where
  | nil
  | node (top : α) (inner rest : SpanForest α)

variable {α : Type}

/-- The nodes have spans of the text that are not empty, that differ, and that are pairwise nested or apart. -/
structure SpansNested (span : α → Span) (s : Text) (nodes : List α) : Prop where
  nonempty : ∀ n ∈ nodes, (span n).start < (span n).stop
  inText : ∀ n ∈ nodes, (span n).stop ≤ s.length
  distinct : nodes.Pairwise fun a b => span a ≠ span b
  nestedOrApart : ∀ a ∈ nodes, ∀ b ∈ nodes, (span a).covers (span b) ∨ (span b).covers (span a) ∨
    (span a).stop ≤ (span b).start ∨ (span b).stop ≤ (span a).start

/-- What a node is replaced by: nothing if it is not eligible. -/
def answerOf (eligible : α → Bool) (edit : α → Option Text) (n : α) : Option Text :=
  if eligible n then edit n else none

namespace SpanForest

/-- The nodes from left to right, each in front of those inside of it. -/
def toList : SpanForest α → List α
  | nil => []
  | node top inner rest => top :: (inner.toList ++ rest.toList)

/-- The nodes inside of a node are inside of its span, and those behind it begin behind its span. -/
def Nested (span : α → Span) : SpanForest α → Prop
  | nil => True
  | node top inner rest =>
    (∀ n ∈ inner.toList, (span top).encloses (span n)) ∧ (∀ n ∈ rest.toList, (span top).stop ≤ (span n).start) ∧
      inner.Nested span ∧ rest.Nested span

/-- The forest of nodes that come from left to right, outer ones first. -/
def ofSorted (span : α → Span) : List α → SpanForest α
  | [] => nil
  | n :: rest =>
    node n (ofSorted span (rest.takeWhile fun m => (span n).encloses (span m)))
      (ofSorted span (rest.dropWhile fun m => (span n).encloses (span m)))
termination_by nodes => nodes.length
decreasing_by
  · exact Nat.lt_succ_of_le (List.takeWhile_sublist _).length_le
  · exact Nat.lt_succ_of_le (List.dropWhile_sublist _).length_le

/-- The forest of nodes in any order. -/
def ofNodes (span : α → Span) (nodes : List α) : SpanForest α :=
  ofSorted span (nodes.mergeSort fun a b => Span.outerFirst (span a) (span b))

/-- The text from `lo` to `hi` with the nodes of the forest rewritten: text outside of them stays, and a node is its
replacement, or its own text with the nodes inside of it rewritten. -/
def rewrite (span : α → Span) (eligible : α → Bool) (edit : α → Option Text) (s : Text) :
    SpanForest α → (lo hi : Nat) → Text
  | nil, lo, hi => Text.slice lo hi s
  | node top inner rest, lo, hi =>
    let middle := match answerOf eligible edit top with
      | some text => text
      | none => inner.rewrite span eligible edit s (span top).start (span top).stop
    Text.slice lo (span top).start s ++ middle ++ rest.rewrite span eligible edit s (span top).stop hi

/-- The nodes that a rewriting from the top asks about, and what it is told. -/
def answers (eligible : α → Bool) (edit : α → Option Text) : SpanForest α → List (α × Option Text)
  | nil => []
  | node top inner rest =>
    let within := match answerOf eligible edit top with
      | some _ => []
      | none => inner.answers eligible edit
    (if eligible top then [(top, edit top)] else []) ++ within ++ rest.answers eligible edit

end SpanForest

/-! ## Spans -/

theorem Span.covers_iff (a b : Span) : a.covers b = true ↔ a.start ≤ b.start ∧ b.stop ≤ a.stop := by
  simp [Scan.Span.covers]

theorem Span.encloses_iff (a b : Span) :
    a.encloses b = true ↔ (a.start ≤ b.start ∧ b.stop ≤ a.stop) ∧ a ≠ b := by
  rw [Scan.Span.encloses, Bool.and_eq_true, Span.covers_iff, bne_iff_ne]

theorem Span.outerFirst_iff (a b : Span) :
    Span.outerFirst a b = true ↔ a.start < b.start ∨ (a.start = b.start ∧ b.stop ≤ a.stop) := by
  simp [Span.outerFirst]

theorem Span.eq_of_covers {a b : Span} (hab : a.covers b = true) (hba : b.covers a = true) : a = b := by
  obtain ⟨aStart, aStop⟩ := a
  obtain ⟨bStart, bStop⟩ := b
  simp only [Span.covers_iff] at hab hba
  rw [Scan.Span.mk.injEq]
  omega

/-- Of two spans in order, the second is inside of the first or behind it. -/
theorem Span.stop_le_start_of_not_encloses {a b : Span} (horder : Span.outerFirst a b = true) (hne : a ≠ b)
    (hb : b.start < b.stop)
    (hnested : a.covers b ∨ b.covers a ∨ a.stop ≤ b.start ∨ b.stop ≤ a.start) (h : a.encloses b = false) :
    a.stop ≤ b.start := by
  have hout : ¬(a.start ≤ b.start ∧ b.stop ≤ a.stop) := by
    intro hcovers
    have := (Span.encloses_iff a b).mpr ⟨hcovers, hne⟩
    simp [h] at this
  rw [Span.covers_iff, Span.covers_iff] at hnested
  rw [Span.outerFirst_iff] at horder
  omega

theorem SpansNested.sublist {span : α → Span} {s : Text} {nodes some : List α} (h : SpansNested span s nodes)
    (hsub : some.Sublist nodes) : SpansNested span s some where
  nonempty := fun n hn => h.nonempty n (hsub.subset hn)
  inText := fun n hn => h.inText n (hsub.subset hn)
  distinct := h.distinct.sublist hsub
  nestedOrApart := fun a ha b hb => h.nestedOrApart a (hsub.subset ha) b (hsub.subset hb)

theorem SpansNested.perm {span : α → Span} {s : Text} {nodes others : List α} (h : SpansNested span s nodes)
    (hperm : others.Perm nodes) : SpansNested span s others where
  nonempty := fun n hn => h.nonempty n (hperm.subset hn)
  inText := fun n hn => h.inText n (hperm.subset hn)
  distinct := (hperm.pairwise_iff fun hab => Ne.symm hab).mpr h.distinct
  nestedOrApart := fun a ha b hb => h.nestedOrApart a (hperm.subset ha) b (hperm.subset hb)

/-! ## Building the forest -/

namespace SpanForest

theorem toList_ofSorted (span : α → Span) (nodes : List α) : (ofSorted span nodes).toList = nodes := by
  fun_induction ofSorted span nodes with
  | case1 => rfl
  | case2 n rest ihInner ihRest => rw [toList, ihInner, ihRest, List.takeWhile_append_dropWhile]

theorem toList_ofNodes (span : α → Span) (nodes : List α) :
    (ofNodes span nodes).toList = nodes.mergeSort fun a b => Span.outerFirst (span a) (span b) :=
  toList_ofSorted span _

theorem toList_ofNodes_perm (span : α → Span) (nodes : List α) : (ofNodes span nodes).toList.Perm nodes := by
  rw [toList_ofNodes]
  exact List.mergeSort_perm _ _

/-- Behind the nodes inside of the first one come only nodes behind its span. -/
theorem stop_le_start_of_mem_dropWhile {span : α → Span} {s : Text} {n : α} {rest : List α}
    (hsorted : (n :: rest).Pairwise fun a b => Span.outerFirst (span a) (span b))
    (hnested : SpansNested span s (n :: rest)) {m : α}
    (hm : m ∈ rest.dropWhile fun m => (span n).encloses (span m)) : (span n).stop ≤ (span m).start := by
  obtain ⟨hfirst, hrest⟩ := List.pairwise_cons.mp hsorted
  have hdistinct := (List.pairwise_cons.mp hnested.distinct).1
  have hsub := List.dropWhile_sublist (l := rest) fun m => (span n).encloses (span m)
  cases hdrop : rest.dropWhile fun m => (span n).encloses (span m) with
  | nil => simp [hdrop] at hm
  | cons d ds =>
    have hd : d ∈ rest := hsub.subset (by simp [hdrop])
    have hout : (span n).encloses (span d) = false := by
      have hhead := List.head?_dropWhile_not (fun m => (span n).encloses (span m)) rest
      simpa [hdrop] using hhead
    have hdstop := Span.stop_le_start_of_not_encloses (hfirst d hd) (hdistinct d hd)
      (hnested.nonempty d (List.mem_cons_of_mem _ hd))
      (hnested.nestedOrApart n List.mem_cons_self d (List.mem_cons_of_mem _ hd)) hout
    rw [hdrop] at hm
    obtain rfl | hmds := List.mem_cons.mp hm
    · exact hdstop
    · have hdm := (List.pairwise_cons.mp (hdrop ▸ hrest.sublist hsub)).1 m hmds
      rw [Span.outerFirst_iff] at hdm
      omega

/-- The forest of nodes in order is nested. -/
theorem nested_ofSorted {span : α → Span} {s : Text} {nodes : List α}
    (hsorted : nodes.Pairwise fun a b => Span.outerFirst (span a) (span b)) (hnested : SpansNested span s nodes) :
    (ofSorted span nodes).Nested span := by
  fun_induction ofSorted span nodes with
  | case1 => exact trivial
  | case2 n rest ihInner ihRest =>
    have hinner := (List.takeWhile_sublist (l := rest) fun m => (span n).encloses (span m)).trans
      (List.sublist_cons_self n rest)
    have hbehind := (List.dropWhile_sublist (l := rest) fun m => (span n).encloses (span m)).trans
      (List.sublist_cons_self n rest)
    refine ⟨?_, ?_, ?_, ?_⟩
    · intro m hm
      rw [toList_ofSorted] at hm
      have henclosed := List.mem_takeWhile_imp hm
      exact henclosed
    · intro m hm
      rw [toList_ofSorted] at hm
      exact stop_le_start_of_mem_dropWhile hsorted hnested hm
    · exact ihInner (hsorted.sublist hinner) (hnested.sublist hinner)
    · exact ihRest (hsorted.sublist hbehind) (hnested.sublist hbehind)

/-- The order in which nodes are asked about. -/
theorem pairwise_mergeSort_outerFirst (span : α → Span) (nodes : List α) :
    (nodes.mergeSort fun a b => Span.outerFirst (span a) (span b)).Pairwise
      fun a b => Span.outerFirst (span a) (span b) := by
  refine List.pairwise_mergeSort ?_ ?_ nodes
  · intro a b c hab hbc
    rw [Span.outerFirst_iff] at hab hbc ⊢
    omega
  · intro a b
    rw [Bool.or_eq_true, Span.outerFirst_iff, Span.outerFirst_iff]
    omega

/-- The forest of nested nodes is nested, in whatever order they are given. -/
theorem nested_ofNodes {span : α → Span} {s : Text} {nodes : List α} (hnested : SpansNested span s nodes) :
    (ofNodes span nodes).Nested span :=
  nested_ofSorted (pairwise_mergeSort_outerFirst span nodes) (hnested.perm (List.mergeSort_perm _ _))

end SpanForest

end PageMarkup
