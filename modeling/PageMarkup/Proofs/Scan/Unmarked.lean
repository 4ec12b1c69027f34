import PageMarkup.Proofs.Scan.Braces
import PageMarkup.Proofs.Text.Spacing

/-!
# Constructs whose parts hold no markup

Where a board shows no comment, tag, link or parameter (`Board.Quiet`), a scan finds nothing but double braces. A text
in double braces, with a head that may be a title and with arguments that hold no markup (`Unmarked`), is one construct
from its start to its end, and its parts are those it was written with (`braces_of_unmarked`).
-/
namespace PageMarkup

/-! ## Pieces -/

theorem pieces_eq_singleton {α : Type} {p : α → Bool} {l : List α} (h : ∀ a ∈ l, p a = false) : pieces p l = [l] := by
  induction l with
  | nil => rfl
  | cons a rest ih =>
    obtain ⟨ha, hrest⟩ := List.forall_mem_cons.mp h
    simp [pieces, ha, ih hrest]

theorem pieces_map {α β : Type} (p : β → Bool) (f : α → β) (l : List α) :
    pieces p (l.map f) = (pieces (fun a => p (f a)) l).map (List.map f) := by
  induction l with
  | nil => rfl
  | cons a rest ih =>
    obtain ⟨first, others, hpieces⟩ := List.exists_cons_of_ne_nil (pieces_ne_nil (fun a => p (f a)) rest)
    rw [List.map_cons, pieces, pieces, ih, hpieces]
    split <;> simp

/-- What was joined by separators comes apart again. -/
theorem pieces_append_flatMap_cons {α : Type} {p : α → Bool} {c : α} (hc : p c = true) {l : List α} {ls : List (List α)}
    (hl : ∀ a ∈ l, p a = false) (hls : ∀ m ∈ ls, ∀ a ∈ m, p a = false) :
    pieces p (l ++ ls.flatMap (c :: ·)) = l :: ls := by
  induction ls generalizing l with
  | nil => simp [pieces_eq_singleton hl]
  | cons m ls ih =>
    obtain ⟨hm, hls⟩ := List.forall_mem_cons.mp hls
    rw [List.flatMap_cons, List.cons_append, Text.pieces_append_cons _ _ hc, pieces_eq_singleton hl, ih hm hls,
      List.singleton_append]

namespace Scan

/-! ## Boards on which nothing begins -/

/-- The board shows no comment, tag, link or parameter. -/
structure Board.Quiet (b : Board) : Prop where
  no_angle : ∀ i, b.holds i '<' = false
  no_bracket : ∀ i, b.holds i ']' = false
  no_triple : ∀ stop i, b.reads stop i ['\x7d', '\x7d', '\x7d'] = false

namespace Board.Quiet

variable {b : Board} {p : Progress}

theorem startTags_eq_nil (h : b.Quiet) (stop i : Nat) : startTags b stop i = [] := by
  fun_induction startTags b stop i with
  | case1 i hlt nameEnd hname => simp [h.no_angle] at hname
  | case2 => rfl
  | case3 i hlt nameEnd hname hnone ih => exact ih
  | case4 i hlt nameEnd hname ih => exact ih
  | case5 => rfl

theorem endTags_eq_nil (h : b.Quiet) (stop i : Nat) : endTags b stop i = [] := by
  fun_induction endTags b stop i with
  | case1 i hlt nameEnd hname => simp [Board.reads, h.no_angle] at hname
  | case2 => rfl
  | case3 i hlt nameEnd hname hnone ih => exact ih
  | case4 i hlt nameEnd hname ih => exact ih
  | case5 => rfl

theorem commentEnd?_eq_none (h : b.Quiet) (stop i : Nat) : commentEnd? b stop i = none := by
  simp [commentEnd?, Board.reads, h.no_angle]

theorem extensionAt?_eq_none (h : b.Quiet) (names : List Text) (stop i : Nat) : extensionAt? names b stop i = none := by
  rw [extensionAt?, h.no_angle]
  rfl

theorem linkStart?_eq_none (h : b.Quiet) (start stop : Nat) : linkStart? b start stop = none := by
  simp [linkStart?, doubleStart?, endsWithAt, h.no_bracket]

theorem parameterStart?_eq_none (h : b.Quiet) (start stop : Nat) : parameterStart? b start stop = none := by
  simp [parameterStart?, h.no_triple]

theorem scanTags_eq (h : p.board.Quiet) (i stop : Nat) : scanTags i stop p = p := by
  induction hn : stop - i generalizing i with
  | zero => rw [scanTags, if_neg (by omega)]
  | succ n ih =>
    rw [scanTags, if_pos (by omega)]
    simp only [h.commentEnd?_eq_none, h.extensionAt?_eq_none]
    exact ih (i + 1) (by omega)

theorem inwardPass_eq (h : p.board.Quiet) (inner : Span → Progress → Progress) (start stop : Nat) :
    inwardPass inner start stop p = (p, false) := by
  induction stop with
  | zero => rw [inwardPass, if_neg (by omega)]
  | succ stop ih =>
    rw [inwardPass]
    split
    · simp only [h.linkStart?_eq_none, h.parameterStart?_eq_none, Option.map_none]
      exact ih
    · rfl

theorem inwardPasses_eq (h : p.board.Quiet) (inner : Span → Progress → Progress) (range : Span) (rounds : Nat) :
    inwardPasses inner range rounds p = p := by
  cases rounds with
  | zero => rfl
  | succ rounds => rw [inwardPasses, h.inwardPass_eq]

/-- Where there are no tags, only the rounds for links, parameters and braces are left of a scan. -/
theorem scanRange_succ_eq (h : p.board.Quiet) (depth : Nat) (range : Span) : scanRange (depth + 1) range p =
    markupRounds (scanRange depth) range (range.stop - range.start + 1) p := by
  simp only [scanRange, h.startTags_eq_nil, h.endTags_eq_nil, List.append_nil, List.foldl_nil]

end Board.Quiet

theorem bracePass_of_not_holds {p : Progress} (h : ∀ i, p.board.holds i '\x7b' = false) (stop i : Nat) :
    bracePass stop i p = (p, false) := by
  induction hn : stop - i generalizing i with
  | zero => rw [bracePass, if_neg (by omega)]
  | succ n ih =>
    have hnone : braceEnd? p.board stop i = none := by simp [braceEnd?, Board.reads, h]
    rw [bracePass, if_pos (by omega), hnone]
    exact ih (i + 1) (by omega)

theorem Board.Quiet.markupRounds_eq {p : Progress} (h : p.board.Quiet) (hopen : ∀ i, p.board.holds i '\x7b' = false)
    (inner : Span → Progress → Progress) (range : Span) (rounds : Nat) : markupRounds inner range rounds p = p := by
  cases rounds with
  | zero => rfl
  | succ rounds =>
    rw [markupRounds, h.inwardPasses_eq]
    simp only [bracePass_of_not_holds hopen]

/-! ## One construct -/

theorem Board.getElem?_alter {g : Char → Char} (b : Board) {start count k : Nat} (hstart : start ≤ k)
    (hk : k < start + count) : (alter g start count b)[k]? = b[k]?.map g := by
  induction count generalizing b with
  | zero => omega
  | succ count ih =>
    rw [alter]
    by_cases hlast : k = start + count
    · rw [getElem?_alter_of_le _ (by omega), Array.getElem?_modify, if_pos hlast.symm]
    · rw [ih _ (by omega), Array.getElem?_modify, if_neg (by omega)]

/-- Where all cells are overwritten by one character, the board holds no other one. -/
theorem Board.holds_alterSpan_const {b : Board} {stop i : Nat} {c d : Char} (hstop : b.size = stop) (hne : c ≠ d) :
    (b.alterSpan (fun _ => c) ⟨0, stop⟩).holds i d = false := by
  rw [holds, beq_eq_false_iff_ne, alterSpan]
  by_cases hi : i < stop
  · rw [getElem?_alter _ (Nat.zero_le i) (by simpa using hi), Ne, Option.map_eq_some_iff]
    rintro ⟨-, -, hsame⟩
    exact hne hsame
  · rw [getElem?_alter_of_le _ (by simpa using hi), Array.getElem?_eq_none (by omega)]
    simp

theorem Board.quiet_alterSpan_const {b : Board} {stop : Nat} (hstop : b.size = stop) :
    (b.alterSpan (fun _ => 'X') ⟨0, stop⟩).Quiet where
  no_angle _ := holds_alterSpan_const hstop (by decide)
  no_bracket _ := holds_alterSpan_const hstop (by decide)
  no_triple stop i := by simp [reads, holds_alterSpan_const hstop]

variable {s : Text} {kind : Kind}

/-- A text that shows double braces from its start to its end, and nothing in front of them, is one construct. -/
theorem marks_ofText_of_braceEnd? (hquiet : (Board.ofText s).Quiet)
    (hend : braceEnd? (Board.ofText s) s.length 0 = some (some kind, s.length)) :
    (Scan.ofText s).marks = [⟨kind, ⟨0, s.length⟩, (Board.ofText s).toList⟩] := by
  have hsize : (Board.ofText s).size = s.length := by simp [Board.ofText]
  obtain ⟨⟨-, hbraced⟩, hkind⟩ := braceEnd?_eq_some hend
  have hwide : 4 ≤ s.length := by simpa using hbraced.wide
  generalize hmarked : Progress.record ⟨Board.ofText s, []⟩ kind ⟨0, s.length⟩ (fun _ => 'X') = marked
  have hblank : marked.board = (Board.ofText s).alterSpan (fun _ => 'X') ⟨0, s.length⟩ := by
    rw [← hmarked]
    rfl
  have hopen : ∀ i, marked.board.holds i '\x7b' = false := fun i => by
    rw [hblank]
    exact Board.holds_alterSpan_const hsize (by decide)
  -- The first pass covers the whole text up, and then there is nothing left.
  have hpass : bracePass s.length 0 ⟨Board.ofText s, []⟩ = (marked, true) := by
    rw [bracePass, if_pos (by omega)]
    simp only [hend, hmarked]
    rw [if_pos (by omega), bracePass_of_not_holds hopen]
  have hscanned : scanRange (s.length + 1) ⟨0, s.length⟩ (scanTags 0 s.length ⟨Board.ofText s, []⟩) = marked := by
    rw [hquiet.scanTags_eq, hquiet.scanRange_succ_eq, markupRounds, hquiet.inwardPasses_eq]
    simp only [hpass]
    exact (hblank ▸ Board.quiet_alterSpan_const hsize : marked.board.Quiet).markupRounds_eq hopen _ _ _
  have hmarks : marked.marks = [⟨kind, ⟨0, s.length⟩, (Board.ofText s).toList⟩] := by
    rw [← hmarked, Progress.record, Board.read, ← hsize, Array.extract_size]
  have hother : kind ≠ .comment := fun h => hkind (congrArg some h)
  rw [ofText]
  simp only [hscanned, hmarks]
  simp [hother]

/-! ## Ends -/

section

variable {b : Board} {p : Char → Bool} {stop i k : Nat}

theorem Board.skip_le {c : Char} (stop : Nat) (hik : i ≤ k) (hk : b[k]? = some c) (hc : p c = false) :
    b.skip p stop i ≤ k := by
  fun_induction Board.skip p b stop i with
  | case1 i hlt x hx hp ih =>
    have hne : i ≠ k := by
      rintro rfl
      rw [hx] at hk
      rw [Option.some.inj hk, hc] at hp
      exact Bool.false_ne_true hp
    exact ih (by omega)
  | case2 => exact hik
  | case3 => exact hik
  | case4 => exact hik

theorem Board.le_skip_of_forall (hstop : k ≤ stop) (h : ∀ l, i ≤ l → l < k → ∃ x, b[l]? = some x ∧ p x = true) :
    k ≤ b.skip p stop i := by
  fun_induction Board.skip p b stop i with
  | case1 i hi x hx hp ih => exact ih fun l hl => h l (by omega)
  | case2 i hi x hx hp =>
    by_contra hbefore
    obtain ⟨y, hy, hsat⟩ := h i (Nat.le_refl i) (by omega)
    rw [hx] at hy
    exact hp (Option.some.inj hy ▸ hsat)
  | case3 i hi hnone =>
    by_contra hbefore
    obtain ⟨y, hy, -⟩ := h i (Nat.le_refl i) (by omega)
    rw [hnone] at hy
    simp at hy
  | case4 i hi => omega

/-- What is skipped goes up to the first cell that does not satisfy the predicate. -/
theorem Board.skip_eq {c : Char} (hik : i ≤ k) (hlt : k < stop)
    (h : ∀ l, i ≤ l → l < k → ∃ x, b[l]? = some x ∧ p x = true) (hk : b[k]? = some c) (hc : p c = false) :
    b.skip p stop i = k :=
  Nat.le_antisymm (skip_le stop hik hk hc) (le_skip_of_forall hlt.le h)

/-- Arguments go up to the closing braces behind them, if there are no braces in them. -/
theorem argumentsEnd_eq (hik : i ≤ k)
    (hnone : ∀ l, i ≤ l → l < k → b.holds l '\x7b' = false ∧ b.holds l '\x7d' = false)
    (hreads : b.reads stop k ['\x7d', '\x7d'] = true) : argumentsEnd b stop i = k := by
  obtain ⟨hfirst, hsecond, hstop⟩ := Board.getElem?_of_reads_pair hreads
  fun_induction argumentsEnd b stop i with
  | case1 i hlt doubled hdoubled =>
    by_contra hne
    obtain ⟨hopen, hclose⟩ := hnone i (Nat.le_refl i) (by omega)
    simp [doubled, hopen, hclose] at hdoubled
  | case2 i hlt doubled hdoubled ih =>
    have hne : i ≠ k := by
      rintro rfl
      have hi : i + 1 < stop := by omega
      simp [doubled, Board.holds, hfirst, hsecond, hi] at hdoubled
    exact ih (by omega) fun l hl => hnone l (by omega)
  | case3 i hge => omega

end

/-! ## Texts -/

/-- The parts of a construct, with a pipe in front of each argument. -/
def innerText (head : Text) (args : List Text) : Text := head ++ args.flatMap ('|' :: ·)

/-- The construct in double braces with the parts. -/
def bracedText (head : Text) (args : List Text) : Text := ['\x7b', '\x7b'] ++ innerText head args ++ ['\x7d', '\x7d']

/-- Whether the character neither begins nor ends a construct. -/
def isBare (c : Char) : Bool := !(['\x7b', '\x7d', ']', '<'].contains c)

theorem isBare_of_isTitleCell {c : Char} (h : isTitleCell c = true) : isBare c = true := by
  have hmarkup : ['\x7b', '\x7d', ']', '<'] ⊆
      ['|', '\x7b', '\x7d', '[', ']', '<', '>', '\r', '\n', '\x02', '\x03'] := by decide
  simp only [isTitleCell, isBare, Bool.not_eq_true', List.contains_eq_mem, decide_eq_false_iff_not] at h ⊢
  exact fun hmem => h (hmarkup hmem)

/-- The head may be a title and is more than blanks, and the arguments hold no markup and no pipes. -/
structure Unmarked (head : Text) (args : List Text) : Prop where
  title_cells : ∀ c ∈ head, isTitleCell c = true
  titled : ∃ c ∈ head, isGap c = false ∧ c ≠ '_'
  bare : ∀ arg ∈ args, ∀ c ∈ arg, isBare c = true ∧ c ≠ '|'

section

variable (head : Text) (args : List Text)

theorem length_bracedText : (bracedText head args).length = (innerText head args).length + 4 := by
  simp [bracedText]

theorem getElem?_bracedText (i : Nat) :
    (bracedText head args)[i + 2]? = (innerText head args ++ ['\x7d', '\x7d'])[i]? := rfl

theorem opens_bracedText :
    (Board.ofText (bracedText head args)).reads (bracedText head args).length 0 ['\x7b', '\x7b'] = true :=
  Board.reads_ofText_of_prefix (by decide) (by simp [length_bracedText]) ⟨_, (List.append_assoc _ _ _).symm⟩

theorem closes_bracedText : (Board.ofText (bracedText head args)).reads (bracedText head args).length
    ((innerText head args).length + 2) ['\x7d', '\x7d'] = true := by
  refine Board.reads_ofText_of_prefix (by decide) (by simp [length_bracedText]) ?_
  have hdrop : (bracedText head args).drop ((innerText head args).length + 2) = ['\x7d', '\x7d'] :=
    List.drop_left' (by simp)
  rw [hdrop]

/-- The cell behind the head is a pipe or the first of the closing braces. -/
theorem getElem?_behind_head : (Board.ofText (bracedText head args))[head.length + 2]? =
    some (if args = [] then '\x7d' else '|') := by
  rw [Board.getElem?_ofText, getElem?_bracedText, innerText, List.append_assoc,
    List.getElem?_append_right (Nat.le_refl _), Nat.sub_self]
  cases args <;> rfl

end

namespace Unmarked

variable {head : Text} {args : List Text} {stop k j : Nat}

/-- What stands between the braces. -/
theorem isBare_of_mem (h : Unmarked head args) : ∀ c ∈ innerText head args, isBare c = true := by
  intro c hc
  obtain hhead | hargs := List.mem_append.mp hc
  · exact isBare_of_isTitleCell (h.title_cells c hhead)
  · obtain ⟨arg, harg, hmem⟩ := List.mem_flatMap.mp hargs
    obtain rfl | hmem := List.mem_cons.mp hmem
    · decide
    · exact (h.bare arg harg c hmem).1

theorem not_holds (h : Unmarked head args) {c : Char} (hc : isBare c = false) (hopen : c ≠ '\x7b') (hclose : c ≠ '\x7d')
    (hshown : isShown c = true) (i : Nat) : (Board.ofText (bracedText head args)).holds i c = false := by
  rw [Bool.eq_false_iff, Ne, Board.holds_ofText hshown]
  intro hget
  have hinner : c ∈ innerText head args := by
    simpa [bracedText, hopen, hclose] using List.mem_of_getElem? hget
  simp [h.isBare_of_mem c hinner] at hc

theorem quiet (h : Unmarked head args) : (Board.ofText (bracedText head args)).Quiet where
  no_angle := h.not_holds (by decide) (by decide) (by decide) (by decide)
  no_bracket := h.not_holds (by decide) (by decide) (by decide) (by decide)
  no_triple stop i := by
    rw [Bool.eq_false_iff]
    intro hreads
    -- The text has only two closing braces.
    have hthree := ((Board.reads_ofText (by decide) hreads).sublist.trans (List.drop_sublist _ _)).count_le '\x7d'
    have hnone : (innerText head args).count '\x7d' = 0 :=
      List.count_eq_zero.mpr fun hmem => absurd (h.isBare_of_mem _ hmem) (by decide)
    simp [bracedText, List.count_append, hnone] at hthree

/-- Braces close only at the end of the text. -/
theorem eq_of_reads (h : Unmarked head args) (hk : 2 ≤ k)
    (hreads : (Board.ofText (bracedText head args)).reads stop k ['\x7d', '\x7d'] = true) :
    k = (innerText head args).length + 2 := by
  obtain ⟨i, rfl⟩ := Nat.exists_eq_add_of_le' hk
  obtain ⟨hfirst, hsecond, -⟩ := Board.getElem?_of_reads_pair hreads
  have hat : ∀ l, (Board.ofText (bracedText head args))[l + 2]? = some '\x7d' →
      (innerText head args).length ≤ l ∧ l < (innerText head args).length + 2 := by
    intro l hl
    have hget := (Board.holds_ofText (by decide)).mp (beq_iff_eq.mpr hl)
    rw [getElem?_bracedText] at hget
    obtain ⟨hlt, -⟩ := List.getElem?_eq_some_iff.mp hget
    rw [List.length_append] at hlt
    refine ⟨?_, hlt⟩
    by_contra hinner
    rw [List.getElem?_append_left (by omega)] at hget
    exact absurd (h.isBare_of_mem _ (List.mem_of_getElem? hget)) (by decide)
  have hlow := hat i hfirst
  have hhigh := hat (i + 1) (by rwa [Nat.add_right_comm])
  omega

theorem eq_of_closesAt (h : Unmarked head args) (hclose : ClosesAt (Board.ofText (bracedText head args)) stop 2 j) :
    j = (bracedText head args).length := by
  obtain ⟨k, hk, rfl, hreads⟩ := hclose
  rw [h.eq_of_reads hk hreads, length_bracedText]

/-- The cells of the head. -/
theorem exists_title_cell (h : Unmarked head args) {l : Nat} (hlow : 2 ≤ l) (hl : l < head.length + 2) :
    ∃ x, (Board.ofText (bracedText head args))[l]? = some x ∧ isTitleCell x = true := by
  obtain ⟨i, rfl⟩ := Nat.exists_eq_add_of_le' hlow
  rw [Board.getElem?_ofText, getElem?_bracedText, innerText, List.append_assoc, List.getElem?_append_left (by omega),
    List.getElem?_eq_getElem (by omega), Option.map_some]
  refine ⟨_, rfl, ?_⟩
  split
  · exact h.title_cells _ (List.getElem_mem _)
  · decide

/-- Something in the head is neither a blank nor an underscore. -/
theorem exists_titled_cell (h : Unmarked head args) : ∃ l x, 2 ≤ l ∧ l < head.length + 2 ∧
    (Board.ofText (bracedText head args))[l]? = some x ∧ isGap x = false ∧ x ≠ '_' := by
  obtain ⟨c, hc, hgap, hline⟩ := h.titled
  obtain ⟨i, hi, rfl⟩ := List.getElem_of_mem hc
  refine ⟨i + 2, if (head[i]).toNat < 0x80 then head[i] else '?', by omega, by omega, ?_, ?_⟩
  · rw [Board.getElem?_ofText, getElem?_bracedText, innerText, List.append_assoc, List.getElem?_append_left hi,
      List.getElem?_eq_getElem hi, Option.map_some]
  · split
    · exact ⟨hgap, hline⟩
    · decide

theorem emptyEnd?_eq_none (h : Unmarked head args) :
    emptyEnd? (Board.ofText (bracedText head args)) (bracedText head args).length 2 = none := by
  rw [emptyEnd?]
  generalize hplace : Board.skip (fun c => isGap c || c = '_') (Board.ofText (bracedText head args))
    (bracedText head args).length 2 = place
  have hge : 2 ≤ place := hplace ▸ Board.le_skip _ _ _ _
  have hlt : place < head.length + 2 := by
    obtain ⟨l, x, hlow, hl, hget, hgap, hline⟩ := h.exists_titled_cell
    exact hplace ▸ (Board.skip_le _ hlow hget (by simp [hgap, hline])).trans_lt hl
  obtain ⟨x, hx, htitle⟩ := h.exists_title_cell hge hlt
  have hpipe : x ≠ '|' := by
    rintro rfl
    exact absurd htitle (by decide)
  have hclose :
      (Board.ofText (bracedText head args)).reads (bracedText head args).length place ['\x7d', '\x7d'] = false := by
    rw [Bool.eq_false_iff]
    intro hreads
    have hend := h.eq_of_reads hge hreads
    rw [innerText, List.length_append] at hend
    omega
  simp [bracesEnd?, Board.holds, hx, hpipe, hclose]

theorem argumentsEnd_eq (h : Unmarked head args) (hargs : args ≠ []) :
    argumentsEnd (Board.ofText (bracedText head args)) (bracedText head args).length (head.length + 2 + 1) =
      (innerText head args).length + 2 := by
  refine Scan.argumentsEnd_eq ?_ (fun l hlow hl => ?_) (closes_bracedText head args)
  · obtain ⟨arg, rest, rfl⟩ := List.exists_cons_of_ne_nil hargs
    simp [innerText]
  · obtain ⟨i, rfl⟩ : ∃ i, l = i + 2 := ⟨l - 2, by omega⟩
    have hnone : ∀ c, isShown c = true → isBare c = false →
        (Board.ofText (bracedText head args)).holds (i + 2) c = false := by
      intro c hshown hc
      rw [Bool.eq_false_iff, Ne, Board.holds_ofText hshown, getElem?_bracedText, List.getElem?_append_left (by omega)]
      intro hget
      simp [h.isBare_of_mem c (List.mem_of_getElem? hget)] at hc
    exact ⟨hnone _ (by decide) (by decide), hnone _ (by decide) (by decide)⟩

theorem templateEnd?_eq_some (h : Unmarked head args) :
    templateEnd? (Board.ofText (bracedText head args)) (bracedText head args).length 2 =
      some (bracedText head args).length := by
  obtain ⟨l, x, hlow, hl, hget, hgap, -⟩ := h.exists_titled_cell
  have hgaps := (Board.skip_le (bracedText head args).length hlow hget hgap).trans_lt hl
  have hge := Board.le_skip isGap (Board.ofText (bracedText head args)) (bracedText head args).length 2
  have hbehind := getElem?_behind_head head args
  have hlt : head.length + 2 < (bracedText head args).length := by
    rw [length_bracedText, innerText, List.length_append]
    omega
  have htitle := Board.skip_eq (p := isTitleCell) hgaps.le hlt (fun k hk => h.exists_title_cell (hge.trans hk)) hbehind
    (by split <;> decide)
  have hrest := Board.skip_eq (p := isGap) (Nat.le_refl _) hlt (fun k hk hlt => absurd hlt (Nat.not_lt.mpr hk)) hbehind
    (by split <;> decide)
  have hend : (if (head.length + 2 < (bracedText head args).length &&
      (Board.ofText (bracedText head args)).holds (head.length + 2) '|') = true then
      argumentsEnd (Board.ofText (bracedText head args)) (bracedText head args).length (head.length + 2 + 1)
      else head.length + 2) = (innerText head args).length + 2 := by
    by_cases hnone : args = []
    · rw [if_pos hnone] at hbehind
      rw [if_neg (by simp [Board.holds, hbehind])]
      simp [innerText, hnone]
    · rw [if_neg hnone] at hbehind
      rw [if_pos (by simp [Board.holds, hbehind, hlt])]
      exact h.argumentsEnd_eq hnone
  rw [templateEnd?, htitle, hrest, bracesEnd?, hend]
  exact (if_pos (closes_bracedText head args)).trans (by rw [length_bracedText])

/-- The text is one construct in double braces. -/
theorem exists_braceEnd? (h : Unmarked head args) : ∃ kind, (kind = .template ∨ kind = .function) ∧
    braceEnd? (Board.ofText (bracedText head args)) (bracedText head args).length 0 =
      some (some kind, (bracedText head args).length) := by
  rw [braceEnd?, if_pos (opens_bracedText head args)]
  cases hfunction : functionEnd? (Board.ofText (bracedText head args)) (bracedText head args).length (0 + 2) with
  | some j => exact ⟨.function, Or.inr rfl, by simp [h.eq_of_closesAt (closesAt_of_functionEnd? hfunction)]⟩
  | none => exact ⟨.template, Or.inl rfl, by simp [h.emptyEnd?_eq_none, h.templateEnd?_eq_some]⟩

end Unmarked

/-- A construct whose parts hold no markup is found as the one that the text holds, with these parts. -/
theorem braces_of_unmarked {head : Text} {args : List Text} (h : Unmarked head args) :
    (Scan.ofText (bracedText head args)).braces = [{
      span := ⟨0, (bracedText head args).length⟩
      written := bracedText head args
      head
      arguments := args.map fun arg => argumentOf (Board.ofText arg).toList arg }] := by
  obtain ⟨kind, hkind, hend⟩ := h.exists_braceEnd?
  have hmarks := marks_ofText_of_braceEnd? h.quiet hend
  have hbraces : (Scan.ofText (bracedText head args)).braces =
      [(Scan.ofText (bracedText head args)).braceOf ⟨kind, ⟨0, (bracedText head args).length⟩,
        (Board.ofText (bracedText head args)).toList⟩] := by
    rw [braces, hmarks]
    obtain rfl | rfl := hkind <;> rfl
  have hwritten : (Scan.ofText (bracedText head args)).textAt ⟨0, (bracedText head args).length⟩ =
      bracedText head args := by
    simp [textAt, Text.slice, ofText]
  have hinner : ((bracedText head args).take ((bracedText head args).length - 2)).drop 2 = innerText head args := by
    rw [length_bracedText, bracedText, List.take_left' (by simp)]
    rfl
  have hpieces : pieces (fun c => (if c.toNat < 0x80 then c else '?') == '|') (innerText head args) = head :: args := by
    have hpipe : ∀ c, c ≠ '|' → ((if c.toNat < 0x80 then c else '?') == '|') = false := by
      intro c hc
      split
      · exact beq_eq_false_iff_ne.mpr hc
      · decide
    have hhead : ∀ c ∈ head, c ≠ '|' := by
      rintro _ hc rfl
      exact absurd (h.title_cells _ hc) (by decide)
    exact pieces_append_flatMap_cons (by decide) (fun c hc => hpipe c (hhead c hc))
      fun arg harg c hc => hpipe c (h.bare arg harg c hc).2
  have hcells : (((Board.ofText (bracedText head args)).toList.take ((bracedText head args).length - 2)).drop 2).zip
      (innerText head args) = (innerText head args).map fun c => (if c.toNat < 0x80 then c else '?', c) := by
    rw [Board.ofText, List.toList_toArray, ← List.map_take, ← List.map_drop, hinner]
    exact List.map_prod_right_eq_zip.symm
  have hsize : (Board.ofText (bracedText head args)).toList.length = (bracedText head args).length := by
    simp [Board.ofText]
  rw [hbraces]
  simp only [braceOf, hwritten, hsize, hinner, hcells, pieces_map, hpieces]
  simp [List.unzip_eq_map, Board.ofText, Function.comp_def]

/-! ## Arguments -/

theorem separatorFrom_eq_none {cells : Text} (h : '=' ∉ cells) (fresh : Bool) (index : Nat) :
    separatorFrom fresh index cells = none := by
  induction cells generalizing fresh index with
  | nil => rw [separatorFrom]
  | cons c rest ih =>
    obtain ⟨hc, hrest⟩ := not_or.mp (List.mem_cons.not.mp h)
    rw [separatorFrom, if_neg (Ne.symm hc)]
    exact ih hrest _ _

theorem separatorFrom_append_cons {key : Text} (h : ∀ c ∈ key, c ≠ '=' ∧ isBreak c = false) (rest : Text)
    (index : Nat) : separatorFrom false index (key ++ '=' :: rest) = some (index + key.length) := by
  induction key generalizing index with
  | nil => simp [separatorFrom]
  | cons c key ih =>
    obtain ⟨⟨hc, hbreak⟩, hkey⟩ := List.forall_mem_cons.mp h
    rw [List.cons_append, separatorFrom, if_neg hc, hbreak, ih hkey, List.length_cons]
    congr 1
    omega

/-- An argument without a sign is one without a key. -/
theorem argumentOf_eq_unkeyed {arg : Text} (h : '=' ∉ arg) :
    argumentOf (Board.ofText arg).toList arg = ⟨'|' :: arg, none, arg⟩ := by
  have hcells : '=' ∉ (Board.ofText arg).toList := by
    rw [Board.ofText, List.toList_toArray, List.mem_map]
    rintro ⟨c, hc, heq⟩
    split at heq
    · exact h (heq ▸ hc)
    · exact absurd heq (by decide)
  rw [argumentOf, separatorFrom_eq_none hcells]

/-- An argument is cut at the first sign, if its key is on one line. -/
theorem argumentOf_eq_keyed {key : Text} (h : ∀ c ∈ key, c ≠ '=' ∧ isBreak c = false) (value : Text) :
    argumentOf (Board.ofText (key ++ '=' :: value)).toList (key ++ '=' :: value) =
      ⟨'|' :: (key ++ '=' :: value), some key, value⟩ := by
  have hcells : (Board.ofText (key ++ '=' :: value)).toList =
      (Board.ofText key).toList ++ '=' :: (Board.ofText value).toList := by
    simp [Board.ofText]
  have hkey : ∀ c ∈ (Board.ofText key).toList, c ≠ '=' ∧ isBreak c = false := by
    rw [Board.ofText, List.toList_toArray, List.forall_mem_map]
    intro c hc
    split
    · exact h c hc
    · decide
  have hlength : (Board.ofText key).toList.length = key.length := by simp [Board.ofText]
  rw [argumentOf, hcells, separatorFrom_append_cons hkey, hlength, Nat.zero_add]
  simp [List.drop_append]

end Scan

end PageMarkup
