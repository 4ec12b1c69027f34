import PageMarkup.Proofs.Scan.Frame
import PageMarkup.Scan.Result

/-!
# The comments of a text

A scan overwrites what it recognizes, and looks into some of the tags before it goes on behind them. Neither matters to
the comments that it finds: they are those that can be read off the board as it is in the beginning (`commentSpans`),
and they depend on nothing in front of the index at which the search begins (`comments_scanTags`).
-/
namespace PageMarkup.Scan

/-- The span moved by `d` to the right. -/
def Span.shift (d : Nat) (span : Span) : Span := ⟨span.start + d, span.stop + d⟩

/-! ## Where tags end -/

section

variable {b : Board} {stop i j : Nat}

theorem lt_of_tagNameEnd?_eq_some {names : List Text} {name : Text} (h : tagNameEnd? names b stop i = some (name, j)) :
    i < j := by
  obtain ⟨found, -, heq⟩ := Option.map_eq_some_iff.mp h
  obtain ⟨rfl, rfl⟩ := Prod.mk.inj heq
  omega

theorem extensionEnd?_eq_some {name : Text} {closing : Nat} (h : extensionEnd? name b stop i = some (closing, j)) :
    i ≤ closing ∧ closing < j ∧ j ≤ stop := by
  fun_induction extensionEnd? name b stop i with
  | case1 i hlt k hfound =>
    obtain ⟨rfl, rfl⟩ := Prod.mk.inj (Option.some.inj h)
    simp only [Bool.and_eq_true, decide_eq_true_eq] at hfound
    have := Board.le_skip isSpacing b stop (i + 2 + name.length)
    omega
  | case2 i hlt k hnone ih =>
    have := ih h
    omega
  | case3 => simp at h

/-- An extension tag ends in the range, and its content ends before it. -/
theorem extensionAt?_eq_some {names : List Text} {content : Option Span}
    (h : extensionAt? names b stop i = some (content, j)) :
    i < j ∧ j ≤ stop ∧ ∀ span, content = some span → i < span.start ∧ span.stop < j := by
  unfold extensionAt? at h
  obtain ⟨-, -, h⟩ := Option.bind_eq_some_iff.mp h
  obtain ⟨⟨name, nameEnd⟩, hname, h⟩ := Option.bind_eq_some_iff.mp h
  obtain ⟨opened, hopened, h⟩ := Option.bind_eq_some_iff.mp h
  have hstart := lt_of_tagNameEnd?_eq_some hname
  have hangle := Board.behindAngle?_eq_some hopened
  dsimp only at h hangle
  split at h
  · obtain ⟨rfl, rfl⟩ := Prod.mk.inj (Option.some.inj h)
    exact ⟨by omega, by omega, by simp⟩
  · obtain ⟨⟨closing, behind⟩, hclosing, h⟩ := Option.bind_eq_some_iff.mp h
    obtain ⟨rfl, rfl⟩ := Prod.mk.inj (Option.some.inj h)
    have hends := extensionEnd?_eq_some hclosing
    refine ⟨by omega, by omega, ?_⟩
    rintro span hspan
    obtain rfl := Option.some.inj hspan
    dsimp only
    omega

/-- A comment ends in the range. -/
theorem commentEnd?_eq_some (h : commentEnd? b stop i = some j) : i + 4 ≤ j ∧ j ≤ stop := by
  unfold commentEnd? at h
  split at h
  · rename_i hopens
    have hopening := Board.le_of_reads (by simp) hopens
    simp only [List.length_cons, List.length_nil] at hopening
    split at h
    · rename_i k hclose
      obtain rfl := Option.some.inj h
      obtain ⟨hle, hreads⟩ := Board.find?_eq_some hclose
      have hclosing := Board.le_of_reads (by simp) hreads
      simp only [List.length_cons, List.length_nil] at hclosing
      omega
    · obtain rfl := Option.some.inj h
      omega
  · simp at h

end

/-! ## Boards that agree behind an index -/

/-- Whether the cells of `w` from `i + d` on are those of `b` from `i` on. -/
def Board.Extends (d i : Nat) (b w : Board) : Prop := ∀ k, i ≤ k → w[k + d]? = b[k]?

section

variable {d i k stop : Nat} {b w : Board}

theorem Board.Extends.mono (h : b.Extends d i w) (hik : i ≤ k) : b.Extends d k w :=
  fun l hl => h l (Nat.le_trans hik hl)

theorem Board.Extends.trans {e : Board} (h : b.Extends d i w) (he : ∀ l, i + d ≤ l → e[l]? = w[l]?) :
    b.Extends d i e :=
  fun l hl => (he (l + d) (Nat.add_le_add_right hl d)).trans (h l hl)

variable (h : b.Extends d i w)

include h

theorem Board.Extends.holds_eq (hk : i ≤ k) (x : Char) : w.holds (k + d) x = b.holds k x := by
  rw [Board.holds, Board.holds, h k hk]

theorem Board.Extends.reads_eq (hk : i ≤ k) (s : Text) : w.reads (stop + d) (k + d) s = b.reads stop k s := by
  induction s generalizing k with
  | nil => rfl
  | cons x rest ih =>
    have hrest := ih (k := k + 1) (by omega)
    rw [Nat.add_right_comm] at hrest
    simp [Board.reads, h.holds_eq hk, hrest]

theorem Board.Extends.skip_eq (p : Char → Bool) (hk : i ≤ k) : w.skip p (stop + d) (k + d) = b.skip p stop k + d := by
  fun_induction Board.skip p b stop k with
  | case1 k hlt x hx hp ih =>
    have hrest := ih (by omega)
    rw [Nat.add_right_comm] at hrest
    rw [Board.skip, if_pos (by omega), h k hk, hx]
    simp only [hp, if_true, hrest]
  | case2 k hlt x hx hp =>
    rw [Board.skip, if_pos (by omega), h k hk, hx]
    simp only [hp, if_false, Bool.false_eq_true]
  | case3 k hlt hnone =>
    rw [Board.skip, if_pos (by omega), h k hk, hnone]
  | case4 k hge => rw [Board.skip, if_neg (by omega)]

theorem Board.Extends.find?_eq (s : Text) (hk : i ≤ k) :
    w.find? (stop + d) s (k + d) = (b.find? stop s k).map (· + d) := by
  fun_induction Board.find? b stop s k with
  | case1 k hlt hreads => rw [Board.find?, if_pos (by omega), h.reads_eq hk, if_pos hreads, Option.map_some]
  | case2 k hlt hreads ih =>
    have hrest := ih (by omega)
    rw [Nat.add_right_comm] at hrest
    rw [Board.find?, if_pos (by omega), h.reads_eq hk, if_neg hreads, hrest]
  | case3 k hge => rw [Board.find?, if_neg (by omega), Option.map_none]

theorem Board.Extends.behindAngle?_eq (hk : i ≤ k) :
    w.behindAngle? (stop + d) (k + d) = (b.behindAngle? stop k).map (· + d) := by
  rw [Board.behindAngle?, h.find?_eq _ hk, Board.behindAngle?, Option.map_map, Option.map_map]
  congr 1
  funext l
  exact Nat.add_right_comm l d 1

theorem Board.Extends.readsName_eq (hk : i ≤ k) (s : Text) :
    readsName w (stop + d) (k + d) s = readsName b stop k s := by
  induction s generalizing k with
  | nil => rfl
  | cons x rest ih =>
    have hrest := ih (k := k + 1) (by omega)
    rw [Nat.add_right_comm] at hrest
    simp [readsName, h k hk, hrest]

theorem Board.Extends.tagNameEnd?_eq (names : List Text) (hk : i ≤ k) :
    tagNameEnd? names w (stop + d) (k + d) = (tagNameEnd? names b stop k).map fun x => (x.1, x.2 + d) := by
  have hindex : ∀ name : Text, k + d + 1 + name.length = k + 1 + name.length + d := fun name => by omega
  have hname : ∀ name : Text, readsName w (stop + d) (k + d + 1) name = readsName b stop (k + 1) name := by
    intro name
    rw [Nat.add_right_comm]
    exact h.readsName_eq (by omega) name
  have hcell : ∀ name : Text, w[k + 1 + name.length + d]? = b[k + 1 + name.length]? := fun name => h _ (by omega)
  simp only [tagNameEnd?, hindex, hname, hcell, Nat.add_lt_add_iff_right, Option.map_map]
  rfl

theorem Board.Extends.extensionEnd?_eq (name : Text) (hk : i ≤ k) :
    extensionEnd? name w (stop + d) (k + d) =
      (extensionEnd? name b stop k).map fun x => (x.1 + d, x.2 + d) := by
  have hends : ∀ l, i ≤ l →
      (w.reads (stop + d) (l + d) ['<', '/'] && readsName w (stop + d) (l + d + 2) name &&
          decide (w.skip isSpacing (stop + d) (l + d + 2 + name.length) < stop + d) &&
          w.holds (w.skip isSpacing (stop + d) (l + d + 2 + name.length)) '>') =
        (b.reads stop l ['<', '/'] && readsName b stop (l + 2) name &&
          decide (b.skip isSpacing stop (l + 2 + name.length) < stop) &&
          b.holds (b.skip isSpacing stop (l + 2 + name.length)) '>') := by
    intro l hl
    have hle := Board.le_skip isSpacing b stop (l + 2 + name.length)
    rw [Nat.add_right_comm l d 2, Nat.add_right_comm (l + 2) d name.length, h.reads_eq hl, h.readsName_eq (by omega),
      h.skip_eq _ (by omega), h.holds_eq (by omega)]
    simp only [Nat.add_lt_add_iff_right]
  have hskip : ∀ l, i ≤ l →
      w.skip isSpacing (stop + d) (l + d + 2 + name.length) = b.skip isSpacing stop (l + 2 + name.length) + d := by
    intro l hl
    rw [Nat.add_right_comm l d 2, Nat.add_right_comm (l + 2) d name.length, h.skip_eq _ (by omega)]
  fun_induction extensionEnd? name b stop k with
  | case1 k hlt j hfound =>
    rw [extensionEnd?, if_pos (by omega)]
    dsimp only
    rw [hends k hk, if_pos hfound, hskip k hk, Option.map_some, Nat.add_right_comm]
  | case2 k hlt j hnone ih =>
    have hrest := ih (by omega)
    rw [Nat.add_right_comm] at hrest
    rw [extensionEnd?, if_pos (by omega)]
    dsimp only
    rw [hends k hk, if_neg hnone, hrest]
  | case3 k hge => rw [extensionEnd?, if_neg (by omega), Option.map_none]

theorem Board.Extends.extensionAt?_eq (names : List Text) (hk : i ≤ k) :
    extensionAt? names w (stop + d) (k + d) =
      (extensionAt? names b stop k).map fun x => (x.1.map (Span.shift d), x.2 + d) := by
  have hguard : (guard (true = true) : Option Unit) = some () := rfl
  unfold extensionAt?
  rw [h.holds_eq hk, h.tagNameEnd?_eq names hk]
  cases b.holds k '<' with
  | false => rfl
  | true =>
    rw [hguard, Option.bind_eq_bind, Option.bind_some]
    cases hname : tagNameEnd? names b stop k with
    | none => rfl
    | some found =>
      obtain ⟨name, nameEnd⟩ := found
      have hstart := lt_of_tagNameEnd?_eq_some hname
      have hopened : w.behindAngle? (stop + d) (nameEnd + d) = (b.behindAngle? stop nameEnd).map (· + d) :=
        h.behindAngle?_eq (by omega)
      cases hangle : b.behindAngle? stop nameEnd with
      | none =>
        rw [hangle] at hopened
        simp only [Option.map_some, Option.bind_eq_bind, Option.bind_some, hopened, hangle]
        rfl
      | some opened =>
        rw [hangle] at hopened
        have hbehind := Board.behindAngle?_eq_some hangle
        have hslash := h.holds_eq (k := opened - 2) (by omega) '/'
        have hindex : opened + d - 2 = opened - 2 + d := by omega
        have hclosing : extensionEnd? name w (stop + d) (opened + d) =
            (extensionEnd? name b stop opened).map fun x => (x.1 + d, x.2 + d) := h.extensionEnd?_eq name (by omega)
        simp only [Option.map_some, Option.bind_eq_bind, Option.bind_some, hopened, hangle, hindex, hslash, hclosing]
        cases b.holds (opened - 2) '/' with
        | true => rfl
        | false =>
          cases extensionEnd? name b stop opened with
          | none => rfl
          | some closing => rfl

theorem Board.Extends.commentEnd?_eq (hk : i ≤ k) :
    commentEnd? w (stop + d) (k + d) = (commentEnd? b stop k).map (· + d) := by
  have hclose : w.find? (stop + d) ['-', '-', '>'] (k + d + 4) = (b.find? stop ['-', '-', '>'] (k + 4)).map (· + d) := by
    rw [Nat.add_right_comm]
    exact h.find?_eq _ (by omega)
  unfold commentEnd?
  rw [h.reads_eq hk, hclose]
  split
  · cases b.find? stop ['-', '-', '>'] (k + 4) with
    | none => rfl
    | some j => exact congrArg some (Nat.add_right_comm j d 3)
  · rfl

end

/-! ## Comments -/

/-- The spans of the comments from `i` up to `stop`, read off the board as it is. -/
def commentSpans (b : Board) (i stop : Nat) : List Span :=
  if i < stop then
    match commentEnd? b stop i with
    | some j => if i < j then ⟨i, j⟩ :: commentSpans b j stop else []
    | none =>
      match extensionAt? closedTags b stop i with
      | some (_, j) => if i < j then commentSpans b j stop else []
      | none =>
        match extensionAt? openTags b stop i with
        | some (content, j) =>
          if i < j then
            let inside := match content with
              | some c => if i < c.start ∧ c.stop ≤ stop then commentSpans b c.start c.stop else []
              | none => []
            inside ++ commentSpans b j stop
          else []
        | none => commentSpans b (i + 1) stop
  else []
termination_by stop - i

/-- However a scan overwrites what it recognizes, from an index on it finds the comments that can be read off the board
from there on. -/
theorem finds_scanTags {d i stop : Nat} {b : Board} {p : Progress} (h : b.Extends d i p.board) :
    p.Finds (stop + d) ((commentSpans b i stop).map (Span.shift d)) (scanTags (i + d) (stop + d) p) := by
  -- The invariant is that the board agrees with `b` from the index at hand on: nothing is written there before.
  fun_induction commentSpans b i stop generalizing p with
  | case1 i stop hlt j hcomment hij ih =>
    have hend := commentEnd?_eq_some hcomment
    have hfirst : p.Finds (j + d) [⟨i + d, j + d⟩] (p.record .comment ⟨i + d, j + d⟩ fun _ => absent) :=
      Progress.finds_comment _ (Nat.le_refl _)
    rw [scanTags, if_pos (by omega), h.commentEnd?_eq (Nat.le_refl i), hcomment]
    dsimp only [Option.map_some]
    rw [if_pos (by omega)]
    exact (hfirst.mono (by omega)).trans (ih ((h.mono (by omega)).trans hfirst.cell_eq))
  | case2 i stop hlt j hcomment hij =>
    have := commentEnd?_eq_some hcomment
    omega
  | case3 i stop hlt hnone content j hclosed hij ih =>
    have hend := extensionAt?_eq_some hclosed
    have hfirst : p.Finds (j + d) [] (p.record .extension ⟨i + d, j + d⟩ fun _ => '_') :=
      Progress.finds_record _ (by simp) (Nat.le_refl _)
    rw [scanTags, if_pos (by omega), h.commentEnd?_eq (Nat.le_refl i), hnone, h.extensionAt?_eq _ (Nat.le_refl i), hclosed]
    dsimp only [Option.map_none, Option.map_some]
    rw [if_pos (by omega)]
    exact (hfirst.mono (by omega)).trans (ih ((h.mono (by omega)).trans hfirst.cell_eq))
  | case4 i stop hlt hnone content j hclosed hij => exact absurd (extensionAt?_eq_some hclosed).1 hij
  | case5 i stop hlt hnone hclosed content j hopen hij inside inner =>
    rename_i rest
    obtain ⟨-, hjstop, hcontent⟩ := extensionAt?_eq_some hopen
    rw [scanTags, if_pos (by omega), h.commentEnd?_eq (Nat.le_refl i), hnone, h.extensionAt?_eq _ (Nat.le_refl i), hclosed,
      h.extensionAt?_eq _ (Nat.le_refl i), hopen]
    dsimp only [Option.map_none, Option.map_some]
    rw [if_pos (by omega)]
    generalize hmarked : p.record .extension ⟨i + d, j + d⟩ id = marked
    have hrecord : p.Finds (j + d) [] marked := hmarked ▸ Progress.finds_record id (by simp) (Nat.le_refl _)
    have hfinish : ∀ q, marked.Finds (j + d) (inside.map (Span.shift d)) q →
        p.Finds (stop + d) ((inside ++ commentSpans b j stop).map (Span.shift d)) (scanTags (j + d) (stop + d)
          ((scanRange (j + d - (i + d) + 1) ⟨i + d, j + d⟩ q).alter ⟨i + d, j + d⟩ maskMarkup)) := by
      intro q hq
      have hrange := (hrecord.trans hq).trans (finds_scanRange (j + d - (i + d) + 1) ⟨i + d, j + d⟩ q)
      have hmask : Progress.Finds (j + d) [] (scanRange (j + d - (i + d) + 1) ⟨i + d, j + d⟩ q)
          ((scanRange (j + d - (i + d) + 1) ⟨i + d, j + d⟩ q).alter ⟨i + d, j + d⟩ maskMarkup) :=
        Progress.finds_alter maskMarkup (Nat.le_refl (j + d))
      have hbefore := hrange.trans hmask
      have hafter := rest ((h.mono (by omega)).trans hbefore.cell_eq)
      simpa using (hbefore.mono (by omega)).trans hafter
    cases content with
    | none => exact hfinish marked (Progress.Finds.refl _ _)
    | some c =>
      obtain ⟨hstart, hstop⟩ := hcontent c rfl
      have hextends : b.Extends d c.start marked.board := by
        rw [← hmarked]
        simpa [Progress.record] using h.mono (Nat.le_of_lt hstart)
      have hcond : i < c.start ∧ c.stop ≤ stop := ⟨hstart, by omega⟩
      have hwithin : i + d < c.start + d ∧ c.stop + d ≤ stop + d := by omega
      have hscan := (inner c hcond hextends).mono (Nat.add_le_add_right (Nat.le_of_lt hstop) d)
      dsimp only [Option.map_some, Span.shift]
      rw [if_pos hwithin]
      exact hfinish _ (by simpa only [inside, dif_pos hcond] using hscan)
  | case6 i stop hlt hnone hclosed content j hopen hij => exact absurd (extensionAt?_eq_some hopen).1 hij
  | case7 i stop hlt hnone hclosed hopen ih =>
    have hrest := ih (h.mono (Nat.le_succ i))
    rw [Nat.add_right_comm] at hrest
    rw [scanTags, if_pos (by omega), h.commentEnd?_eq (Nat.le_refl i), hnone, h.extensionAt?_eq _ (Nat.le_refl i), hclosed,
      h.extensionAt?_eq _ (Nat.le_refl i), hopen]
    exact hrest
  | case8 i stop hge =>
    rw [scanTags, if_neg (by omega)]
    exact Progress.Finds.refl _ _

theorem finds_scanTags_self (i stop : Nat) (p : Progress) :
    p.Finds stop (commentSpans p.board i stop) (scanTags i stop p) := by
  have hshift : Span.shift 0 = id := rfl
  have hself : p.board.Extends 0 i p.board := fun _ _ => rfl
  have hfinds : p.Finds (stop + 0) ((commentSpans p.board i stop).map (Span.shift 0)) (scanTags (i + 0) (stop + 0) p) :=
    finds_scanTags hself
  rwa [hshift, List.map_id] at hfinds

/-- The comments behind an index depend on nothing in front of it. -/
theorem commentSpans_shift {d i stop : Nat} {b c : Board} (h : b.Extends d i c) :
    commentSpans c (i + d) (stop + d) = (commentSpans b i stop).map (Span.shift d) := by
  have hown : Progress.Finds (stop + d) (commentSpans c (i + d) (stop + d)) ⟨c, []⟩
      (scanTags (i + d) (stop + d) ⟨c, []⟩) := finds_scanTags_self _ _ ⟨c, []⟩
  have hother : Progress.Finds (stop + d) ((commentSpans b i stop).map (Span.shift d)) ⟨c, []⟩
      (scanTags (i + d) (stop + d) ⟨c, []⟩) := finds_scanTags h
  have hreverse := hown.comments_eq.symm.trans hother.comments_eq
  exact List.reverse_inj.mp (List.append_cancel_right hreverse)

section

variable {b : Board} {i j stop : Nat}

/-- Nothing begins at a cell that holds no bracket. -/
theorem commentSpans_of_not_holds (h : b.holds i '<' = false) : commentSpans b i stop = commentSpans b (i + 1) stop := by
  by_cases hi : i < stop
  · have hcomment : commentEnd? b stop i = none := by simp [commentEnd?, Board.reads, h]
    have htag : ∀ names, extensionAt? names b stop i = none := by
      intro names
      rw [extensionAt?, h]
      rfl
    rw [commentSpans, if_pos hi, hcomment, htag, htag]
  · rw [commentSpans, if_neg hi, commentSpans, if_neg (by omega)]

theorem commentSpans_of_comment (h : commentEnd? b stop i = some j) :
    commentSpans b i stop = ⟨i, j⟩ :: commentSpans b j stop := by
  have hends := commentEnd?_eq_some h
  rw [commentSpans, if_pos (by omega), h]
  exact if_pos (by omega)

/-- A board on which no comment is opened has none. -/
theorem commentSpans_eq_nil (h : ∀ i stop, b.reads stop i ['<', '!', '-', '-'] = false) : commentSpans b i stop = [] := by
  have hnone : ∀ i stop, commentEnd? b stop i = none := fun i stop => by simp [commentEnd?, h]
  fun_induction commentSpans b i stop with
  | case1 i stop hlt j hcomment => simp [hnone] at hcomment
  | case2 => rfl
  | case3 i stop hlt hcomment content j hclosed hij ih => exact ih
  | case4 => rfl
  | case5 i stop hlt hcomment hclosed content j hopen hij inside inner =>
    rename_i rest
    rw [rest, List.append_nil]
    unfold inside
    split
    · split
      · rename_i c hcond
        exact inner c hcond
      · rfl
    · rfl
  | case6 => rfl
  | case7 i stop hlt hcomment hclosed hopen ih => exact ih
  | case8 => rfl

end

end PageMarkup.Scan
