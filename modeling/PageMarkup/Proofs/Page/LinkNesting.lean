import Mathlib.Data.List.Induction
import Mathlib.Data.List.Nodup
import Mathlib.Logic.Function.Iterate
import PageMarkup.Page.Basic
import PageMarkup.Proofs.Page.SpanForest

/-!
# The links around a link

The record of a link has the index of the innermost link around it, and the indexes of the links for which it is that
link itself. The links stand in the order of their starts, so that all links around one come before it, and the last one
of them is the innermost one if links are pairwise nested or apart (`parentOf?_eq_some_iff_innermost`). What the records
say of each other is then the forest of the links (`linkRecordsOf_describesNesting`).
-/
namespace PageMarkup

open Scan (Span)

/-- The spans begin at different places and are pairwise nested or apart. -/
structure IsNesting (spans : List Span) : Prop where
  forward : ∀ a ∈ spans, a.start ≤ a.stop
  distinct : spans.Pairwise fun a b => a.start ≠ b.start
  nestedOrApart : ∀ a ∈ spans, ∀ b ∈ spans, a.covers b ∨ b.covers a ∨ a.stop ≤ b.start ∨ b.stop ≤ a.start

theorem IsNesting.perm {spans others : List Span} (h : IsNesting spans) (hperm : others.Perm spans) :
    IsNesting others where
  forward := fun a ha => h.forward a (hperm.subset ha)
  distinct := (hperm.pairwise_iff fun hab => Ne.symm hab).mpr h.distinct
  nestedOrApart := fun a ha b hb => h.nestedOrApart a (hperm.subset ha) b (hperm.subset hb)

/-- Of two spans around a third one, the one that begins first is around the other. -/
theorem IsNesting.covers_of_encloses {spans : List Span} (h : IsNesting spans) {o q span : Span} (ho : o ∈ spans)
    (hq : q ∈ spans) (hspan : span ∈ spans) (hout : o.encloses span) (hin : q.encloses span)
    (hfirst : o.start < q.start) (hinner : q.start < span.start) : o.covers q := by
  have hforward := h.forward span hspan
  obtain ⟨⟨-, hstop⟩, -⟩ := (Span.encloses_iff o span).mp hout
  obtain ⟨⟨-, hstop'⟩, -⟩ := (Span.encloses_iff q span).mp hin
  obtain hcovers | hcovers | hapart | hapart := h.nestedOrApart o ho q hq
  · exact hcovers
  · obtain ⟨hstart, -⟩ := (Span.covers_iff q o).mp hcovers
    omega
  · omega
  · omega

/-- The links in the order of their spans. -/
def inOrder (links : List Bracket) : List Bracket := links.mergeSort fun a b => a.span.precedes b.span

/-- The place of the parent of the link at a place, if it has one. -/
def parentPlace (records : List LinkRecord) (place : Option Nat) : Option Nat :=
  place.bind fun i => records[i]?.bind (·.parent)

/-- What the records of links say of the links that were found and of each other. `braces` are the spans of the
constructs in double braces. -/
structure DescribesNesting (braces : List Span) (links : List Bracket) (records : List LinkRecord) : Prop where
  listed : (records.map fun r => (r.span, r.written, r.display)).Perm
    (links.map fun link => (link.span, link.written, link.display))
  ascending : records.Pairwise fun r q => r.span.start < q.span.start
  index_eq : ∀ i (r : LinkRecord), records[i]? = some r → r.index = i
  parent_none : ∀ r ∈ records, r.parent = none ↔ ∀ q ∈ records, q.span.encloses r.span = false
  /-- The parent is the smallest of the other links around the link, and comes before it. -/
  parent_some : ∀ r ∈ records, ∀ p, r.parent = some p ↔ p < r.index ∧ ∃ q, records[p]? = some q ∧
    q.span.encloses r.span ∧ ∀ o ∈ records, o.span.encloses r.span → o.span.covers q.span
  mem_children : ∀ p (q : LinkRecord), records[p]? = some q →
    ∀ i, i ∈ q.children ↔ ∃ r : LinkRecord, records[i]? = some r ∧ r.parent = some p
  /-- Whoever goes from parent to parent comes to a link that has none. -/
  climbing_ends : ∀ i, ∃ n, (parentPlace records)^[n] (some i) = none
  nestLevel_eq : ∀ r ∈ records, r.nestLevel = braces.countP fun b => b.covers r.span ∧ b ≠ r.span

/-! ## Searching backwards -/

theorem getElem?_concat_eq_some_iff {α : Type} {l : List α} {last b : α} {j : Nat} :
    (l ++ [last])[j]? = some b ↔ l[j]? = some b ∨ (j = l.length ∧ last = b) := by
  obtain hlt | rfl | hgt := Nat.lt_trichotomy j l.length
  · simp [List.getElem?_append_left hlt, hlt.ne]
  · simp
  · have hlength : (l ++ [last]).length ≤ j := by
      rw [List.length_append, List.length_singleton]
      exact hgt
    simp [List.getElem?_eq_none hlength, List.getElem?_eq_none hgt.le, hgt.ne']

/-- A search from the end of a list comes to the last item for which a condition holds. -/
theorem find?_reverse_zipIdx_eq_some_iff {α : Type} (P : α → Bool) {l : List α} {a : α} {p : Nat} :
    (l.zipIdx.reverse.find? fun entry => P entry.1) = some (a, p) ↔
      l[p]? = some a ∧ P a = true ∧ ∀ j b, p < j → l[j]? = some b → P b = false := by
  induction l using List.reverseRecOn with
  | nil => simp
  | append_singleton l last ih =>
    have hstep : ((l ++ [last]).zipIdx.reverse.find? fun entry => P entry.1) =
        if P last then some (last, l.length) else l.zipIdx.reverse.find? fun entry => P entry.1 := by
      cases hlast : P last <;> simp [List.zipIdx_append, hlast]
    rw [hstep]
    simp only [getElem?_concat_eq_some_iff]
    cases hlast : P last with
    | true =>
      rw [if_pos rfl]
      constructor
      · rintro ⟨⟩
        refine ⟨Or.inr ⟨rfl, rfl⟩, hlast, ?_⟩
        rintro j b hj (hb | ⟨rfl, -⟩)
        · exact absurd (List.getElem?_eq_some_iff.mp hb).1 hj.not_gt
        · exact absurd hj (lt_irrefl _)
      · rintro ⟨hp | ⟨rfl, rfl⟩, -, hrest⟩
        · have hlt : p < l.length := (List.getElem?_eq_some_iff.mp hp).1
          exact absurd ((hrest _ _ hlt (Or.inr ⟨rfl, rfl⟩)).symm.trans hlast) Bool.false_ne_true
        · rfl
    | false =>
      rw [if_neg Bool.false_ne_true, ih]
      constructor
      · rintro ⟨hp, ha, hrest⟩
        refine ⟨Or.inl hp, ha, ?_⟩
        rintro j b hj (hb | ⟨-, rfl⟩)
        · exact hrest j b hj hb
        · exact hlast
      · rintro ⟨hp | ⟨rfl, rfl⟩, ha, hrest⟩
        · exact ⟨hp, ha, fun j b hj hb => hrest j b hj (Or.inl hb)⟩
        · exact absurd (hlast.symm.trans ha) Bool.false_ne_true

/-! ## Parents -/

section

variable {spans : List Span} {index p : Nat} {span : Span}

theorem parentOf?_of_getElem? (hspan : spans[index]? = some span) : parentOf? spans index =
    ((spans.take index).zipIdx.reverse.find? fun entry => entry.1.encloses span).map (·.2) := by
  rw [parentOf?, hspan, Option.map_eq_bind]
  rfl

theorem getElem?_take_eq_some_iff {j : Nat} {o : Span} :
    (spans.take index)[j]? = some o ↔ j < index ∧ spans[j]? = some o := by
  rw [List.getElem?_take]
  split <;> rename_i hj <;> simp [hj]

/-- The parent is the last link around the link among those before it. -/
theorem parentOf?_eq_some_iff (hspan : spans[index]? = some span) : parentOf? spans index = some p ↔
    p < index ∧ (∃ q, spans[p]? = some q ∧ q.encloses span) ∧
      ∀ j o, p < j → j < index → spans[j]? = some o → o.encloses span = false := by
  rw [parentOf?_of_getElem? hspan, Option.map_eq_some_iff]
  constructor
  · rintro ⟨⟨q, i⟩, hfind, rfl⟩
    obtain ⟨hq, hencloses, hrest⟩ := (find?_reverse_zipIdx_eq_some_iff fun o : Span => o.encloses span).mp hfind
    obtain ⟨hlt, hq⟩ := getElem?_take_eq_some_iff.mp hq
    exact ⟨hlt, ⟨q, hq, hencloses⟩, fun j o hj hji ho => hrest j o hj (getElem?_take_eq_some_iff.mpr ⟨hji, ho⟩)⟩
  · rintro ⟨hlt, ⟨q, hq, hencloses⟩, hrest⟩
    refine ⟨(q, p), (find?_reverse_zipIdx_eq_some_iff fun o : Span => o.encloses span).mpr
      ⟨getElem?_take_eq_some_iff.mpr ⟨hlt, hq⟩, hencloses, ?_⟩, rfl⟩
    intro j o hj ho
    obtain ⟨hji, ho⟩ := getElem?_take_eq_some_iff.mp ho
    exact hrest j o hj hji ho

theorem parentOf?_eq_none_iff (hspan : spans[index]? = some span) : parentOf? spans index = none ↔
    ∀ j o, j < index → spans[j]? = some o → o.encloses span = false := by
  rw [parentOf?_of_getElem? hspan, Option.map_eq_none_iff, List.find?_eq_none]
  constructor
  · intro hnone j o hj ho
    have hmem : (o, j) ∈ (spans.take index).zipIdx.reverse :=
      List.mem_reverse.mpr (List.mem_zipIdx_iff_getElem?.mpr (getElem?_take_eq_some_iff.mpr ⟨hj, ho⟩))
    simpa using hnone _ hmem
  · rintro hnone ⟨o, j⟩ hmem
    obtain ⟨hj, ho⟩ :=
      getElem?_take_eq_some_iff.mp (List.mem_zipIdx_iff_getElem?.mp (List.mem_reverse.mp hmem))
    simp [hnone j o hj ho]

end

/-! ### Links in order -/

section

variable {spans : List Span} (hsorted : spans.Pairwise fun a b => a.start < b.start) {index p : Nat} {span : Span}

include hsorted

theorem start_lt_of_lt {i j : Nat} {a b : Span} (ha : spans[i]? = some a) (hb : spans[j]? = some b) (h : i < j) :
    a.start < b.start := by
  obtain ⟨hi, rfl⟩ := List.getElem?_eq_some_iff.mp ha
  obtain ⟨hj, rfl⟩ := List.getElem?_eq_some_iff.mp hb
  exact List.pairwise_iff_getElem.mp hsorted i j hi hj h

/-- All links around a link come before it. -/
theorem lt_of_encloses {j : Nat} {o : Span} (hspan : spans[index]? = some span) (ho : spans[j]? = some o)
    (h : o.encloses span = true) : j < index := by
  obtain ⟨⟨hstart, -⟩, hne⟩ := (Span.encloses_iff o span).mp h
  obtain hlt | rfl | hgt := Nat.lt_trichotomy j index
  · exact hlt
  · exact absurd (Option.some.inj (ho.symm.trans hspan)) hne
  · exact absurd (start_lt_of_lt hsorted hspan ho hgt) (Nat.not_lt.mpr hstart)

theorem parentOf?_eq_none_iff_forall_mem (hspan : spans[index]? = some span) :
    parentOf? spans index = none ↔ ∀ o ∈ spans, o.encloses span = false := by
  rw [parentOf?_eq_none_iff hspan]
  constructor
  · intro hnone o ho
    obtain ⟨j, hj⟩ := List.mem_iff_getElem?.mp ho
    by_contra hencloses
    exact hencloses (hnone j o (lt_of_encloses hsorted hspan hj (Bool.not_eq_false _ ▸ hencloses)) hj)
  · exact fun hnone j o _ ho => hnone o (List.mem_of_getElem? ho)

/-- The parent is the innermost link around the link. -/
theorem parentOf?_eq_some_iff_innermost (hnesting : IsNesting spans) (hspan : spans[index]? = some span) :
    parentOf? spans index = some p ↔ p < index ∧ ∃ q, spans[p]? = some q ∧ q.encloses span ∧
      ∀ o ∈ spans, o.encloses span → o.covers q := by
  rw [parentOf?_eq_some_iff hspan]
  constructor
  · rintro ⟨hlt, ⟨q, hq, hencloses⟩, hlast⟩
    refine ⟨hlt, q, hq, hencloses, fun o ho hout => ?_⟩
    obtain ⟨j, hj⟩ := List.mem_iff_getElem?.mp ho
    have hbefore := lt_of_encloses hsorted hspan hj hout
    obtain hjp | rfl | hpj := Nat.lt_trichotomy j p
    · exact hnesting.covers_of_encloses ho (List.mem_of_getElem? hq) (List.mem_of_getElem? hspan) hout hencloses
        (start_lt_of_lt hsorted hj hq hjp) (start_lt_of_lt hsorted hq hspan hlt)
    · obtain rfl := Option.some.inj (hj.symm.trans hq)
      exact (Span.covers_iff o o).mpr ⟨le_rfl, le_rfl⟩
    · -- The search would have met a link that begins behind `q` before it met `q`.
      exact absurd (hout.symm.trans (hlast j o hpj hbefore hj)) Bool.true_eq_false.mp
  · rintro ⟨hlt, q, hq, hencloses, hinner⟩
    refine ⟨hlt, ⟨q, hq, hencloses⟩, fun j o hj _ ho => ?_⟩
    by_contra hout
    obtain ⟨hstart, -⟩ := (Span.covers_iff o q).mp (hinner o (List.mem_of_getElem? ho) (Bool.not_eq_false _ ▸ hout))
    exact absurd (start_lt_of_lt hsorted hq ho hj) (Nat.not_lt.mpr hstart)

end

/-! ## Records -/

section

variable {braces skipped : List Span} {links : List Bracket}

theorem getElem?_parentsOf {spans : List Span} {i : Nat} {span : Span} (h : spans[i]? = some span) :
    (parentsOf spans)[i]? = some (parentOf? spans i) := by
  rw [parentsOf, List.getElem?_map, List.getElem?_range (List.getElem?_eq_some_iff.mp h).1]
  rfl

theorem mem_childrenOf_iff {parents : List (Option Nat)} {p i : Nat} :
    i ∈ childrenOf parents p ↔ parents[i]? = some (some p) := by
  rw [childrenOf, List.mem_filterMap]
  constructor
  · rintro ⟨⟨parent, j⟩, hmem, hsome⟩
    obtain ⟨rfl, rfl⟩ : parent = some p ∧ j = i := by simpa using hsome
    exact List.mem_zipIdx_iff_getElem?.mp hmem
  · exact fun h => ⟨(some p, i), List.mem_zipIdx_iff_getElem?.mpr h, by simp⟩

/-- The record of the link at a place. -/
theorem getElem?_linkRecordsOf (i : Nat) : (linkRecordsOf braces skipped links)[i]? = links[i]?.map fun link =>
    { toOrigin := Origin.ofHead link.target link.written link.span braces skipped
      index := i
      parent := parentOf? (links.map (·.span)) i
      children := childrenOf (parentsOf (links.map (·.span))) i
      display := link.display } := by
  cases hlink : links[i]? with
  | none =>
    have hlength : links.length ≤ i := List.getElem?_eq_none_iff.mp hlink
    exact List.getElem?_eq_none_iff.mpr (by simpa [linkRecordsOf, parentsOf] using hlength)
  | some link =>
    have hspan : (links.map (·.span))[i]? = some link.span := by rw [List.getElem?_map, hlink]; rfl
    have hpair : (links.zip (parentsOf (links.map (·.span))))[i]? = some (link, parentOf? (links.map (·.span)) i) :=
      List.getElem?_zip_eq_some.mpr ⟨hlink, getElem?_parentsOf hspan⟩
    rw [linkRecordsOf, List.getElem?_map, List.getElem?_zipIdx, hpair]
    simp

theorem map_span_linkRecordsOf (braces skipped : List Span) (links : List Bracket) :
    (linkRecordsOf braces skipped links).map (·.span) = links.map (·.span) := by
  refine List.ext_getElem? fun i => ?_
  rw [List.getElem?_map, List.getElem?_map, getElem?_linkRecordsOf, Option.map_map]
  rfl

theorem map_parent_linkRecordsOf (braces skipped : List Span) (links : List Bracket) :
    (linkRecordsOf braces skipped links).map (·.parent) = parentsOf (links.map (·.span)) := by
  refine List.ext_getElem? fun i => ?_
  rw [List.getElem?_map, getElem?_linkRecordsOf, Option.map_map]
  cases hlink : links[i]? with
  | none =>
    have hlength : links.length ≤ i := List.getElem?_eq_none_iff.mp hlink
    exact (List.getElem?_eq_none_iff.mpr (by simpa [parentsOf] using hlength)).symm
  | some link =>
    have hspan : (links.map (·.span))[i]? = some link.span := by rw [List.getElem?_map, hlink]; rfl
    exact (getElem?_parentsOf hspan).symm

/-- Parents stand before their children, so the climb from any link ends. -/
theorem exists_iterate_parentPlace {records : List LinkRecord}
    (h : ∀ i (r : LinkRecord), records[i]? = some r → ∀ p, r.parent = some p → p < i) (i : Nat) :
    ∃ n, (parentPlace records)^[n] (some i) = none := by
  induction i using Nat.strong_induction_on with
  | _ i ih =>
    cases hplace : parentPlace records (some i) with
    | none => exact ⟨1, hplace⟩
    | some p =>
      have hbind : records[i]?.bind (·.parent) = some p := hplace
      obtain ⟨r, hr, hparent⟩ := Option.bind_eq_some_iff.mp hbind
      obtain ⟨n, hn⟩ := ih p (h i r hr p hparent)
      exact ⟨n + 1, by rw [Function.iterate_succ_apply, hplace, hn]⟩

/-- The records of links in order. -/
theorem describesNesting_of_sorted (skipped : List Span) (hnesting : IsNesting (links.map (·.span)))
    (hsorted : (links.map (·.span)).Pairwise fun a b => a.start < b.start) :
    DescribesNesting braces links (linkRecordsOf braces skipped links) := by
  have hrecord : ∀ i r, (linkRecordsOf braces skipped links)[i]? = some r →
      (links.map (·.span))[i]? = some r.span ∧ r.index = i ∧ r.parent = parentOf? (links.map (·.span)) i ∧
        r.children = childrenOf (parentsOf (links.map (·.span))) i := by
    intro i r hr
    rw [getElem?_linkRecordsOf] at hr
    obtain ⟨link, hlink, rfl⟩ := Option.map_eq_some_iff.mp hr
    exact ⟨by rw [List.getElem?_map, hlink]; rfl, rfl, rfl, rfl⟩
  have hforall : ∀ P : Span → Prop, (∀ o ∈ links.map (·.span), P o) ↔
      ∀ q ∈ linkRecordsOf braces skipped links, P q.span := by
    intro P
    rw [← map_span_linkRecordsOf braces skipped links, List.forall_mem_map]
  constructor
  case listed =>
    refine List.Perm.of_eq (List.ext_getElem? fun i => ?_)
    rw [List.getElem?_map, List.getElem?_map, getElem?_linkRecordsOf, Option.map_map]
    rfl
  case ascending =>
    rw [← map_span_linkRecordsOf braces skipped links, List.pairwise_map] at hsorted
    exact hsorted
  case index_eq => exact fun i r hr => (hrecord i r hr).2.1
  case parent_none =>
    intro r hr
    obtain ⟨i, hi⟩ := List.mem_iff_getElem?.mp hr
    obtain ⟨hspan, -, hparent, -⟩ := hrecord i r hi
    rw [hparent, parentOf?_eq_none_iff_forall_mem hsorted hspan, hforall]
  case parent_some =>
    intro r hr p
    obtain ⟨i, hi⟩ := List.mem_iff_getElem?.mp hr
    obtain ⟨hspan, hindex, hparent, -⟩ := hrecord i r hi
    rw [hparent, hindex, parentOf?_eq_some_iff_innermost hsorted hnesting hspan]
    simp only [hforall]
    rw [← map_span_linkRecordsOf braces skipped links, List.getElem?_map]
    simp
  case mem_children =>
    intro p q hq i
    obtain ⟨-, -, -, hchildren⟩ := hrecord p q hq
    rw [hchildren, mem_childrenOf_iff, ← map_parent_linkRecordsOf braces skipped links,
      List.getElem?_map, Option.map_eq_some_iff]
  case climbing_ends =>
    refine exists_iterate_parentPlace fun i r hr p hp => ?_
    obtain ⟨hspan, -, hparent, -⟩ := hrecord i r hr
    exact ((parentOf?_eq_some_iff hspan).mp (hparent.symm.trans hp)).1
  case nestLevel_eq =>
    intro r hr
    obtain ⟨i, hi⟩ := List.mem_iff_getElem?.mp hr
    rw [getElem?_linkRecordsOf] at hi
    obtain ⟨link, -, rfl⟩ := Option.map_eq_some_iff.mp hi
    refine List.countP_congr fun b _ => ?_
    rw [Span.encloses_iff, decide_eq_true_iff, Span.covers_iff]
    rfl

end

/-! ## Pages -/

theorem Span.precedes_iff (a b : Span) :
    a.precedes b = true ↔ a.start < b.start ∨ (a.start = b.start ∧ a.stop ≤ b.stop) := by
  simp [Scan.Span.precedes]

theorem pairwise_mergeSort_precedes {α : Type} (span : α → Span) (l : List α) :
    (l.mergeSort fun a b => (span a).precedes (span b)).Pairwise fun a b => (span a).precedes (span b) := by
  refine List.pairwise_mergeSort ?_ ?_ l
  · intro a b c hab hbc
    rw [Span.precedes_iff] at hab hbc ⊢
    omega
  · intro a b
    rw [Bool.or_eq_true, Span.precedes_iff, Span.precedes_iff]
    omega

theorem inOrder_perm (links : List Bracket) : (inOrder links).Perm links := List.mergeSort_perm _ _

theorem start_lt_inOrder {links : List Bracket} (h : IsNesting (links.map (·.span))) :
    ((inOrder links).map (·.span)).Pairwise fun a b => a.start < b.start := by
  have hdistinct := (h.perm ((inOrder_perm links).map _)).distinct
  rw [List.pairwise_map] at hdistinct ⊢
  -- Spans in order may have one start, but not those that begin at different places.
  refine ((pairwise_mergeSort_precedes _ links).and hdistinct).imp ?_
  rintro a b ⟨horder, hne⟩
  rw [Span.precedes_iff] at horder
  omega

/-- Links that begin at different places have only one order. -/
theorem eq_inOrder {links sorted : List Bracket} (h : IsNesting (links.map (·.span))) (hperm : sorted.Perm links)
    (hsorted : sorted.Pairwise fun a b => a.span.precedes b.span) : sorted = inOrder links := by
  have hdistinct : (links.map (·.span.start)).Nodup := by
    have hpairwise := h.distinct
    rw [List.pairwise_map] at hpairwise
    exact List.pairwise_map.mpr hpairwise
  refine (hperm.trans (inOrder_perm links).symm).eq_of_pairwise ?_ hsorted (pairwise_mergeSort_precedes _ links)
  intro a b ha hb hab hba
  rw [Span.precedes_iff] at hab hba
  have hstart : a.span.start = b.span.start := by omega
  exact List.inj_on_of_nodup_map hdistinct (hperm.subset ha) ((inOrder_perm links).subset hb) hstart

/-- The scan of a page lists the links in order. -/
theorem Page.pairwise_brackets (page : Page) :
    page.scan.brackets.Pairwise fun a b => a.span.precedes b.span := by
  rw [Scan.brackets, List.pairwise_map]
  exact (pairwise_mergeSort_precedes _ _).filter _

/-- Where links are pairwise nested or apart and begin at different places, their records stand in the order of the
starts, and parents and children describe how the links are nested. The level of a record is the number of constructs in
double braces around it. The records of a page are these records, in whatever order the links were found. -/
theorem linkRecordsOf_describesNesting {links : List Bracket} (h : IsNesting (links.map (·.span)))
    (braces skipped : List Span) :
    DescribesNesting braces links (linkRecordsOf braces skipped (inOrder links)) ∧
      ∀ page : Page, page.scan.brackets.Perm links → page.scan.braces.map (·.span) = braces →
        page.skipSpans page.scan = skipped → page.linkRecords = linkRecordsOf braces skipped (inOrder links) := by
  have hsorted : DescribesNesting braces (inOrder links) (linkRecordsOf braces skipped (inOrder links)) :=
    describesNesting_of_sorted skipped (h.perm ((inOrder_perm links).map _)) (start_lt_inOrder h)
  refine ⟨{ hsorted with listed := hsorted.listed.trans ((inOrder_perm links).map _) }, ?_⟩
  rintro page hperm rfl rfl
  rw [Page.linkRecords, eq_inOrder h hperm page.pairwise_brackets]

/-- The links of a text with links in links. -/
def nestedBrackets : List Bracket :=
  [⟨⟨0, 30⟩, "[[a|[[b|\x7b\x7bx|[[c]]\x7d\x7d]] [[d]]]]".toList, "a".toList,
      some "[[b|\x7b\x7bx|[[c]]\x7d\x7d]] [[d]]".toList⟩,
    ⟨⟨4, 22⟩, "[[b|\x7b\x7bx|[[c]]\x7d\x7d]]".toList, "b".toList, some "\x7b\x7bx|[[c]]\x7d\x7d".toList⟩,
    ⟨⟨12, 17⟩, "[[c]]".toList, "c".toList, none⟩, ⟨⟨23, 28⟩, "[[d]]".toList, "d".toList, none⟩]

/-- The links of `nestedBrackets`, given from right to left, with a template around one of them. -/
theorem linkRecordsOf_describesNesting_nestedBrackets :
    IsNesting (nestedBrackets.reverse.map (·.span)) ∧
    DescribesNesting [⟨8, 20⟩] nestedBrackets.reverse (linkRecordsOf [⟨8, 20⟩] [] (inOrder nestedBrackets.reverse)) ∧
    (linkRecordsOf [⟨8, 20⟩] [] (inOrder nestedBrackets.reverse)).map (fun r => (r.parent, r.children, r.nestLevel)) =
      [(none, [1, 3], 0), (some 0, [2], 0), (some 1, [], 1), (some 0, [], 0)] := by
  have hnesting : IsNesting (nestedBrackets.reverse.map (·.span)) := ⟨by decide, by decide, by decide⟩
  have horder : nestedBrackets = inOrder nestedBrackets.reverse :=
    eq_inOrder hnesting (List.reverse_perm _).symm (by decide)
  refine ⟨hnesting, (linkRecordsOf_describesNesting hnesting [⟨8, 20⟩] []).1, ?_⟩
  rw [← horder]
  decide +kernel

end PageMarkup
