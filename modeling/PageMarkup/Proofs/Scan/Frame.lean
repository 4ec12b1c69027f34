import Mathlib.Logic.Relation
import PageMarkup.Scan.Passes

/-!
# What a scan leaves alone

A scan overwrites what it has recognized. Where it looks for links, parameters and braces in a range it takes steps of
three kinds (`Progress.Step`, `steps_scanRange`): it covers cells up, it records a construct, or it leaves one brace of
those that hold no title. No step writes a cell at the end of the range or behind it, and none finds a comment
(`Progress.Finds`, `finds_scanRange`). So the comments and tags behind a range are found as if nothing had been looked for
inside of it.
-/
namespace PageMarkup.Scan

/-! ## Cells -/

namespace Board

theorem getElem?_alter_of_le {g : Char → Char} {start count k : Nat} (b : Board) (h : start + count ≤ k) :
    (alter g start count b)[k]? = b[k]? := by
  induction count generalizing b with
  | zero => rfl
  | succ count ih =>
    rw [alter, ih _ (by omega), Array.getElem?_modify, if_neg (by omega)]

theorem getElem?_alterSpan_of_le {g : Char → Char} {span : Span} {k : Nat} (b : Board) (h : span.stop ≤ k) :
    (b.alterSpan g span)[k]? = b[k]? := by
  unfold alterSpan
  by_cases hspan : span.start ≤ span.stop
  · exact getElem?_alter_of_le b (by omega)
  · have hempty : span.stop - span.start = 0 := by omega
    rw [hempty, alter]

@[simp] theorem alterSpan_id (span : Span) (b : Board) : b.alterSpan id span = b := by
  have hall : ∀ count (c : Board), alter id span.start count c = c := by
    intro count
    induction count with
    | zero => exact fun _ => rfl
    | succ count ih =>
      intro c
      have hmodify : c.modify (span.start + count) id = c := by
        apply Array.ext_getElem?
        intro k
        simp [Array.getElem?_modify]
      rw [alter, hmodify, ih]
  exact hall _ b

/-! ## Ends of what is recognized -/

section

variable {b : Board} {stop i j : Nat}

theorem le_of_reads {s : Text} (hs : s ≠ []) (h : b.reads stop i s = true) : i + s.length ≤ stop := by
  induction s generalizing i with
  | nil => exact absurd rfl hs
  | cons c rest ih =>
    simp only [reads, Bool.and_eq_true, decide_eq_true_eq] at h
    cases rest with
    | nil =>
      simp only [List.length_cons, List.length_nil]
      omega
    | cons d rest =>
      have := ih (by simp) h.2
      simp only [List.length_cons] at this ⊢
      omega

/-- What is found stands where it is found, and not before the index at which the search begins. -/
theorem find?_eq_some {s : Text} (h : b.find? stop s i = some j) : i ≤ j ∧ b.reads stop j s = true := by
  fun_induction find? b stop s i with
  | case1 i hlt hreads =>
    obtain rfl := Option.some.inj h
    exact ⟨Nat.le_refl _, hreads⟩
  | case2 i hlt hreads ih =>
    obtain ⟨hle, hfound⟩ := ih h
    exact ⟨by omega, hfound⟩
  | case3 i hge => simp at h

theorem behindAngle?_eq_some (h : b.behindAngle? stop i = some j) : i < j ∧ j ≤ stop := by
  obtain ⟨k, hk, rfl⟩ := Option.map_eq_some_iff.mp h
  obtain ⟨hle, hreads⟩ := find?_eq_some hk
  have := le_of_reads (by simp) hreads
  simp only [List.length_singleton] at this
  omega

end

end Board

section

variable {b : Board} {stop i j : Nat}

theorem stop_le_of_mem_startTags {span : Span} (h : span ∈ startTags b stop i) : span.stop ≤ stop := by
  fun_induction startTags b stop i with
  | case1 i hlt nameEnd hname j hangle hij ih =>
    obtain rfl | h := List.mem_cons.mp h
    · exact (Board.behindAngle?_eq_some hangle).2
    · exact ih h
  | case2 => simp at h
  | case3 i hlt nameEnd hname hnone ih => exact ih h
  | case4 i hlt nameEnd hname ih => exact ih h
  | case5 => simp at h

theorem endTagEnd?_le (h : endTagEnd? b stop i = some j) : j ≤ stop := by
  unfold endTagEnd? at h
  split at h
  · split at h
    · obtain rfl := Option.some.inj h
      omega
    · split at h
      · exact (Board.behindAngle?_eq_some h).2
      · simp at h
    · simp at h
  · simp at h

theorem stop_le_of_mem_endTags {span : Span} (h : span ∈ endTags b stop i) : span.stop ≤ stop := by
  fun_induction endTags b stop i with
  | case1 i hlt nameEnd hname j hend hij ih =>
    obtain rfl | h := List.mem_cons.mp h
    · exact endTagEnd?_le hend
    · exact ih h
  | case2 => simp at h
  | case3 i hlt nameEnd hname hnone ih => exact ih h
  | case4 i hlt nameEnd hname ih => exact ih h
  | case5 => simp at h

theorem Board.le_skip (p : Char → Bool) (b : Board) (stop i : Nat) : i ≤ b.skip p stop i := by
  fun_induction Board.skip p b stop i with
  | case1 i hlt x hx hp ih => omega
  | case2 => exact Nat.le_refl _
  | case3 => exact Nat.le_refl _
  | case4 => exact Nat.le_refl _

theorem le_argumentsEnd (b : Board) (stop i : Nat) : i ≤ argumentsEnd b stop i := by
  fun_induction argumentsEnd b stop i with
  | case1 => exact Nat.le_refl _
  | case2 i hlt doubled hnone ih => omega
  | case3 => exact Nat.le_refl _

/-- Whether the index stands behind closing braces, with room for `i` in front of them. -/
def ClosesAt (b : Board) (stop i j : Nat) : Prop := ∃ k, i ≤ k ∧ j = k + 2 ∧ b.reads stop k ['\x7d', '\x7d'] = true

theorem closesAt_of_reads {k : Nat} (hik : i ≤ k)
    (h : (if b.reads stop k ['\x7d', '\x7d'] then some (k + 2) else none) = some j) : ClosesAt b stop i j := by
  split at h
  · exact ⟨k, hik, (Option.some.inj h).symm, by assumption⟩
  · simp at h

theorem ClosesAt.mono {k : Nat} (h : ClosesAt b stop k j) (hik : i ≤ k) : ClosesAt b stop i j := by
  obtain ⟨l, hl, hj, hreads⟩ := h
  exact ⟨l, by omega, hj, hreads⟩

theorem closesAt_of_bracesEnd? (h : bracesEnd? b stop i = some j) : ClosesAt b stop i j := by
  refine closesAt_of_reads ?_ h
  split
  · exact Nat.le_of_succ_le (le_argumentsEnd b stop (i + 1))
  · exact Nat.le_refl i

theorem closesAt_of_functionEnd? (h : functionEnd? b stop i = some j) : ClosesAt b stop i j := by
  have hgap := Board.le_skip isGap b stop i
  -- Behind the name there may be a colon and an argument.
  have hargument : ∀ named, i ≤ named →
      i ≤ if decide (named < stop) && b.holds named ':' then b.skip isNoBrace stop (named + 1) else named := by
    intro named hnamed
    have hrest := Board.le_skip isNoBrace b stop (named + 1)
    split
    · omega
    · exact hnamed
  unfold functionEnd? at h
  dsimp only at h
  split at h
  · have hname := Board.le_skip (fun c => isNoBrace c && c ≠ ':' && c ≠ '|' && !isSpacing c) b stop
      (b.skip isGap stop i + 1)
    split at h
    · exact closesAt_of_reads (hargument _ (by omega)) h
    · simp at h
  · have hname := Board.le_skip isWordChar b stop (b.skip isGap stop i)
    split at h
    · exact closesAt_of_reads (hargument _ (by omega)) h
    · simp at h

/-- Whether the cells of the span begin and end with double braces. -/
structure Board.Braced (b : Board) (span : Span) : Prop where
  wide : span.start + 4 ≤ span.stop
  first : b[span.start]? = some '\x7b'
  second : b[span.start + 1]? = some '\x7b'
  secondLast : b[span.stop - 2]? = some '\x7d'
  last : b[span.stop - 1]? = some '\x7d'

theorem Board.getElem?_of_reads_pair {c d : Char} (h : b.reads stop i [c, d] = true) :
    b[i]? = some c ∧ b[i + 1]? = some d ∧ i + 2 ≤ stop := by
  simp only [reads, holds, Bool.and_eq_true, decide_eq_true_eq, beq_iff_eq] at h
  exact ⟨h.1.2, h.2.1.2, h.2.1.1⟩

theorem ClosesAt.braced (hopen : b.reads stop i ['\x7b', '\x7b'] = true) (h : ClosesAt b stop (i + 2) j) :
    j ≤ stop ∧ b.Braced ⟨i, j⟩ := by
  obtain ⟨k, hk, rfl, hclose⟩ := h
  obtain ⟨hfirst, hsecond, -⟩ := Board.getElem?_of_reads_pair hopen
  obtain ⟨hbefore, hlast, hstop⟩ := Board.getElem?_of_reads_pair hclose
  exact ⟨hstop, by dsimp only; omega, hfirst, hsecond, hbefore, hlast⟩

/-- Double braces are found around cells of the range, and they are no comment. -/
theorem braceEnd?_eq_some {kind : Option Kind} (h : braceEnd? b stop i = some (kind, j)) :
    (j ≤ stop ∧ b.Braced ⟨i, j⟩) ∧ kind ≠ some .comment := by
  unfold braceEnd? at h
  split at h
  · rename_i hopen
    split at h
    · rename_i k hfunction
      obtain ⟨rfl, rfl⟩ := Prod.mk.inj (Option.some.inj h)
      exact ⟨(closesAt_of_functionEnd? hfunction).braced hopen, by simp⟩
    · split at h
      · rename_i k hempty
        obtain ⟨rfl, rfl⟩ := Prod.mk.inj (Option.some.inj h)
        have hblanks := Board.le_skip (fun c => isGap c || c = '_') b stop (i + 2)
        exact ⟨((closesAt_of_bracesEnd? hempty).mono hblanks).braced hopen, by simp⟩
      · obtain ⟨k, htemplate, hk⟩ := Option.map_eq_some_iff.mp h
        obtain ⟨rfl, rfl⟩ := Prod.mk.inj hk
        have hblanks := Board.le_skip isGap b stop (i + 2)
        have htitle := Board.le_skip isTitleCell b stop (b.skip isGap stop (i + 2))
        have hrest := Board.le_skip isGap b stop (b.skip isTitleCell stop (b.skip isGap stop (i + 2)))
        exact ⟨((closesAt_of_bracesEnd? htemplate).mono (by omega)).braced hopen, by simp⟩
  · simp at h

end

/-! ## Steps -/

/-- The cells that frame constructs in double braces and separate what they hold. -/
def isFraming (c : Char) : Bool := c = '\x7b' || c = '\x7d' || c = '|'

/-- Whether what takes the place of a cell frames nothing that the cell did not frame. -/
def Masks (g : Char → Char) : Prop := ∀ c, g c = c ∨ isFraming (g c) = false

theorem masks_id : Masks id := fun _ => Or.inl rfl

theorem masks_const {c : Char} (h : isFraming c = false) : Masks fun _ => c := fun _ => Or.inr h

theorem masks_maskMarkup : Masks maskMarkup := by
  intro c
  unfold maskMarkup
  repeat' split
  all_goals first
    | exact Or.inr (by decide)
    | exact Or.inl rfl

theorem masks_maskTagBrackets : Masks maskTagBrackets := by
  intro c
  unfold maskTagBrackets
  split
  · exact Or.inr (by decide)
  · exact Or.inl rfl

theorem masks_maskTagRest : Masks maskTagRest := by
  intro c
  unfold maskTagRest
  split
  · exact Or.inr (by decide)
  · exact Or.inl rfl

/-- Whether constructs of the kind stand in double braces. -/
def Kind.IsBraced : Kind → Prop
  | .function | .template => True
  | _ => False

namespace Progress

/-- One change that a scan makes where it looks for links, parameters and braces. It writes no cell at `stop` or behind
it. -/
inductive Step (stop : Nat) : Progress → Progress → Prop where
  | mask (p : Progress) {span : Span} {g : Char → Char} (hstop : span.stop ≤ stop) (hg : Masks g) :
      Step stop p (p.alter span g)
  | record (p : Progress) {kind : Kind} {span : Span} {g : Char → Char} (hstop : span.stop ≤ stop) (hg : Masks g)
      (hkind : kind ≠ .comment) (hbraced : kind.IsBraced → p.board.Braced span) : Step stop p (p.record kind span g)
  /-- Braces without a title are covered up, but for one brace. -/
  | reopen (p : Progress) {i j : Nat} (hstop : j ≤ stop) (hbraced : p.board.Braced ⟨i, j⟩) :
      Step stop p ((p.alter ⟨i, j⟩ fun _ => '_').alter ⟨i + 1, i + 2⟩ fun _ => '\x7b')

/-- Any number of such changes. -/
def Steps (stop : Nat) : Progress → Progress → Prop := Relation.ReflTransGen (Step stop)

section

variable {stop : Nat} {p q r : Progress}

theorem Steps.refl (stop : Nat) (p : Progress) : p.Steps stop p := Relation.ReflTransGen.refl

theorem Step.steps (h : p.Step stop q) : p.Steps stop q := Relation.ReflTransGen.single h

theorem Steps.trans (hpq : p.Steps stop q) (hqr : q.Steps stop r) : p.Steps stop r := Relation.ReflTransGen.trans hpq hqr

theorem Step.mono {lower : Nat} (h : p.Step lower q) (hle : lower ≤ stop) : p.Step stop q := by
  cases h with
  | mask hstop hg => exact .mask p (Nat.le_trans hstop hle) hg
  | record hstop hg hkind hbraced => exact .record p (Nat.le_trans hstop hle) hg hkind hbraced
  | reopen hstop hbraced => exact .reopen p (Nat.le_trans hstop hle) hbraced

theorem Steps.mono {lower : Nat} (h : p.Steps lower q) (hle : lower ≤ stop) : p.Steps stop q :=
  Relation.ReflTransGen.mono (fun _ _ hstep => Step.mono hstep hle) _ _ h

theorem steps_foldl_alter {tags : List Span} {g : Char → Char} (hg : Masks g) (h : ∀ tag ∈ tags, tag.stop ≤ stop)
    (p : Progress) : p.Steps stop (tags.foldl (fun p tag => p.alter tag g) p) := by
  induction tags generalizing p with
  | nil => exact Steps.refl stop p
  | cons tag tags ih =>
    obtain ⟨htag, htags⟩ := List.forall_mem_cons.mp h
    exact (Step.mask p htag hg).steps.trans (ih htags _)

end

end Progress

/-! ## Passes -/

section

variable {inner : Span → Progress → Progress} (hinner : ∀ (range : Span) (p : Progress), p.Steps range.stop (inner range p))

include hinner in
theorem steps_inwardPass (start stop : Nat) (p : Progress) : p.Steps stop (inwardPass inner start stop p).1 := by
  fun_induction inwardPass inner start stop p with
  | case1 stop p hlt found kind i hfound hi span marked scanned masked ih =>
    have hkind : kind = .link ∨ kind = .parameter := by
      revert hfound
      unfold found
      split
      · intro hfound
        obtain ⟨rfl, -⟩ := Prod.mk.inj (Option.some.inj hfound)
        exact Or.inl rfl
      · intro hfound
        obtain ⟨k, -, hk⟩ := Option.map_eq_some_iff.mp hfound
        obtain ⟨rfl, -⟩ := Prod.mk.inj hk
        exact Or.inr rfl
    have hmarked : p.Step stop marked := by
      refine .record p (Nat.le_refl stop) masks_id ?_ ?_
      · obtain rfl | rfl := hkind <;> simp
      · obtain rfl | rfl := hkind <;> exact fun h => h.elim
    have hscanned : marked.Steps stop scanned := (hinner _ marked).mono (Nat.sub_le _ _)
    have hmasked : scanned.Step stop masked := by
      refine .mask scanned (Nat.le_refl stop) ?_
      split
      · exact masks_maskMarkup
      · exact masks_const (by decide)
    exact ((hmarked.steps.trans hscanned).trans hmasked.steps).trans (ih.mono (Nat.le_of_lt hi))
  | case2 => exact Progress.Steps.refl _ _
  | case3 stop p hlt found hfound ih => exact ih.mono (Nat.sub_le _ _)
  | case4 => exact Progress.Steps.refl _ _

include hinner in
theorem steps_inwardPasses (range : Span) (rounds : Nat) (p : Progress) :
    p.Steps range.stop (inwardPasses inner range rounds p) := by
  induction rounds generalizing p with
  | zero => exact Progress.Steps.refl _ _
  | succ rounds ih =>
    have hpass := steps_inwardPass hinner range.start range.stop p
    rw [inwardPasses]
    split
    · rename_i q hq
      rw [hq] at hpass
      exact hpass.trans (ih q)
    · rename_i q hq
      rw [hq] at hpass
      exact hpass

theorem steps_bracePass (stop i : Nat) (p : Progress) : p.Steps stop (bracePass stop i p).1 := by
  fun_induction bracePass stop i p with
  | case1 i p hlt kind j hend hij span marked ih =>
    obtain ⟨⟨hj, hbraced⟩, hkind⟩ := braceEnd?_eq_some hend
    have hmarked : p.Step stop marked := by
      unfold marked
      cases kind with
      | some kind => exact .record p hj (masks_const (by decide)) (by simpa using hkind) fun _ => hbraced
      | none => exact .reopen p hj hbraced
    exact hmarked.steps.trans ih
  | case2 => exact Progress.Steps.refl _ _
  | case3 i p hlt hnone ih => exact ih
  | case4 => exact Progress.Steps.refl _ _

include hinner in
theorem steps_markupRounds (range : Span) (rounds : Nat) (p : Progress) :
    p.Steps range.stop (markupRounds inner range rounds p) := by
  induction rounds generalizing p with
  | zero => exact Progress.Steps.refl _ _
  | succ rounds ih =>
    have hinward := steps_inwardPasses hinner range (range.stop - range.start + 1) p
    rw [markupRounds]
    have hbraces := steps_bracePass range.stop range.start
      (inwardPasses inner range (range.stop - range.start + 1) p)
    split
    · rename_i q hq
      rw [hq] at hbraces
      exact (hinward.trans hbraces).trans (ih q)
    · rename_i q hq
      rw [hq] at hbraces
      exact hinward.trans hbraces

end

/-- Links, parameters and braces are looked for in such steps. -/
theorem steps_scanRange (depth : Nat) (range : Span) (p : Progress) : p.Steps range.stop (scanRange depth range p) := by
  induction depth generalizing range p with
  | zero => exact Progress.Steps.refl _ _
  | succ depth ih =>
    have htags : ∀ tag ∈ startTags p.board range.stop range.start ++ endTags p.board range.stop range.start,
        tag.stop ≤ range.stop := by
      intro tag htag
      obtain htag | htag := List.mem_append.mp htag
      · exact stop_le_of_mem_startTags htag
      · exact stop_le_of_mem_endTags htag
    rw [scanRange]
    exact ((Progress.steps_foldl_alter masks_maskTagBrackets htags p).trans (steps_markupRounds ih range _ _)).trans
      (Progress.steps_foldl_alter masks_maskTagRest htags _)

/-! ## What is found -/

namespace Progress

/-- The comments that have been found, the last one first. -/
def comments (p : Progress) : List Mark := p.marks.filter fun m => m.kind = .comment

/-- Whether a scan went on from `p` to `q`, found comments in these spans, in this order, and wrote no cell at `stop` or
behind it. -/
structure Finds (stop : Nat) (spans : List Span) (p q : Progress) : Prop where
  comments_eq : q.comments.map (·.span) = spans.reverse ++ p.comments.map (·.span)
  cell_eq : ∀ k, stop ≤ k → q.board[k]? = p.board[k]?

variable {stop : Nat} {p q r : Progress} {spans others : List Span}

theorem Finds.refl (stop : Nat) (p : Progress) : p.Finds stop [] p := ⟨rfl, fun _ _ => rfl⟩

theorem Finds.trans (hpq : p.Finds stop spans q) (hqr : q.Finds stop others r) :
    p.Finds stop (spans ++ others) r where
  comments_eq := by rw [hqr.comments_eq, hpq.comments_eq, List.reverse_append, List.append_assoc]
  cell_eq k hk := (hqr.cell_eq k hk).trans (hpq.cell_eq k hk)

theorem Finds.mono {lower : Nat} (h : p.Finds lower spans q) (hle : lower ≤ stop) : p.Finds stop spans q where
  comments_eq := h.comments_eq
  cell_eq k hk := h.cell_eq k (Nat.le_trans hle hk)

theorem finds_alter {span : Span} (g : Char → Char) (h : span.stop ≤ stop) : p.Finds stop [] (p.alter span g) where
  comments_eq := rfl
  cell_eq _ hk := Board.getElem?_alterSpan_of_le p.board (Nat.le_trans h hk)

theorem finds_record {kind : Kind} {span : Span} (g : Char → Char) (hkind : kind ≠ .comment) (h : span.stop ≤ stop) :
    p.Finds stop [] (p.record kind span g) where
  comments_eq := by simp [comments, record, hkind]
  cell_eq _ hk := Board.getElem?_alterSpan_of_le p.board (Nat.le_trans h hk)

theorem finds_comment {span : Span} (g : Char → Char) (h : span.stop ≤ stop) :
    p.Finds stop [span] (p.record .comment span g) where
  comments_eq := by simp [comments, record]
  cell_eq _ hk := Board.getElem?_alterSpan_of_le p.board (Nat.le_trans h hk)

theorem Step.finds (h : p.Step stop q) : p.Finds stop [] q := by
  cases h with
  | mask hstop hg => exact finds_alter _ hstop
  | record hstop hg hkind hbraced => exact finds_record _ hkind hstop
  | reopen hstop hbraced =>
    have hwide := hbraced.wide
    dsimp only at hwide
    exact (finds_alter _ hstop).trans (finds_alter _ (by dsimp only; omega))

theorem Steps.finds (h : p.Steps stop q) : p.Finds stop [] q := by
  induction h with
  | refl => exact Finds.refl stop p
  | tail _ hstep ih => exact ih.trans hstep.finds

end Progress

/-- Links, parameters and braces are looked for without finding comments or writing behind the range. -/
theorem finds_scanRange (depth : Nat) (range : Span) (p : Progress) : p.Finds range.stop [] (scanRange depth range p) :=
  (steps_scanRange depth range p).finds

end PageMarkup.Scan
