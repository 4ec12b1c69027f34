import PageMarkup.Proofs.Scan.Faithful
import PageMarkup.Proofs.Scan.Stripping

/-!
# The double braces that a scan finds

Whatever a scan covers up, the board has no braces and no pipes but those of the text (`Board.Shows`). Every step of the
scan keeps this, and a construct in double braces is recorded with its cells just where these begin and end with double
braces (`Mark.Found`). So each construct that a scan of a text reports is the text in its span, made of a head and of
arguments that begin with a pipe (`faithful_of_mem_braces`).
-/
namespace PageMarkup

/-! ## Pieces -/

/-- Joined by what separates them, the pieces are the whole again. -/
theorem head_append_tail_pieces {α : Type} (p : α → Bool) {f : α → Char} {c : Char} {l : List α}
    (h : ∀ a ∈ l, p a = true → f a = c) :
    ((pieces p l).head?.map (List.map f)).getD [] ++ (pieces p l).tail.flatMap (fun piece => c :: piece.map f) =
      l.map f := by
  induction l with
  | nil => simp [pieces]
  | cons a rest ih =>
    obtain ⟨ha, hrest⟩ := List.forall_mem_cons.mp h
    have ih := ih hrest
    obtain ⟨first, others, hpieces⟩ := List.exists_cons_of_ne_nil (pieces_ne_nil p rest)
    rw [hpieces] at ih
    rw [pieces]
    split
    · rename_i hseparates
      simpa [hpieces, ha hseparates] using ih
    · simpa [hpieces] using ih

namespace Scan

/-! ## Boards that show a text -/

/-- Whether the board stands for the text: it has as many cells, and no braces and pipes but those of the text. -/
structure Board.Shows (b : Board) (s : Text) : Prop where
  size_eq : b.size = s.length
  getElem?_eq : ∀ (i : Nat) (c : Char), isFraming c = true → b[i]? = some c → s[i]? = some c

theorem isFraming_cases {c : Char} (h : isFraming c = true) : c = '\x7b' ∨ c = '\x7d' ∨ c = '|' := by
  simpa [isFraming, or_assoc] using h

section

variable {b : Board} {s : Text} {g : Char → Char}

theorem Board.shows_ofText (s : Text) : (Board.ofText s).Shows s where
  size_eq := by simp [Board.ofText]
  getElem?_eq i c hc hget := by
    have hshown : isShown c = true := by
      obtain rfl | rfl | rfl := isFraming_cases hc <;> decide
    exact (Board.holds_ofText hshown).mp (by rw [Board.holds, hget, beq_self_eq_true])

theorem Board.Shows.modify {i : Nat} (h : b.Shows s)
    (hg : ∀ c, isFraming (g c) = true → b[i]? = some c → s[i]? = some (g c)) : Board.Shows (b.modify i g) s where
  size_eq := by rw [Array.size_modify, h.size_eq]
  getElem?_eq k c hc hget := by
    rw [Array.getElem?_modify] at hget
    split at hget
    · rename_i hik
      obtain ⟨d, hd, rfl⟩ := Option.map_eq_some_iff.mp hget
      rw [← hik] at hd ⊢
      exact hg d hc hd
    · exact h.getElem?_eq k c hc hget

theorem Board.Shows.alterSpan (h : b.Shows s) (hg : Masks g) (span : Span) : (b.alterSpan g span).Shows s := by
  have hall : ∀ count (c : Board), c.Shows s → (Board.alter g span.start count c).Shows s := by
    intro count
    induction count with
    | zero => exact fun _ hc => hc
    | succ count ih =>
      intro c hc
      refine ih _ (hc.modify fun d hd hget => ?_)
      obtain hsame | hnone := hg d
      · rw [hsame] at hd ⊢
        exact hc.getElem?_eq _ _ hd hget
      · exact absurd (hnone.symm.trans hd) Bool.false_ne_true
  exact hall _ b h

/-- A brace of the text may be put back. -/
theorem Board.Shows.reopen {i : Nat} (h : b.Shows s) (hi : s[i]? = some '\x7b') :
    (b.alterSpan (fun _ => '\x7b') ⟨i, i + 1⟩).Shows s := by
  have hone : b.alterSpan (fun _ => '\x7b') ⟨i, i + 1⟩ = b.modify i fun _ => '\x7b' := by
    simp [Board.alterSpan, Board.alter]
  rw [hone]
  exact h.modify fun _ _ _ => hi

end

/-! ## Steps -/

/-- Whether the construct was found on a board that showed the text, between double braces if it is one in braces. -/
def Mark.Found (s : Text) (mark : Mark) : Prop :=
  ∃ b : Board, b.Shows s ∧ mark.cells = b.read mark.span ∧ (mark.kind.IsBraced → b.Braced mark.span)

/-- Whether the board shows the text, and all constructs were found on such a board. -/
structure Progress.Shows (s : Text) (p : Progress) : Prop where
  board : p.board.Shows s
  found : ∀ mark ∈ p.marks, mark.Found s

namespace Progress.Shows

variable {s : Text} {p q : Progress} {span : Span} {g : Char → Char}

theorem alter (h : p.Shows s) (hg : Masks g) (span : Span) : (p.alter span g).Shows s :=
  ⟨h.board.alterSpan hg span, h.found⟩

theorem record {kind : Kind} (h : p.Shows s) (hg : Masks g) (hbraced : kind.IsBraced → p.board.Braced span) :
    (p.record kind span g).Shows s where
  board := h.board.alterSpan hg span
  found := List.forall_mem_cons.mpr ⟨⟨p.board, h.board, rfl, hbraced⟩, h.found⟩

theorem step {stop : Nat} (h : p.Shows s) (hstep : p.Step stop q) : q.Shows s := by
  cases hstep with
  | mask hstop hg => exact h.alter hg _
  | record hstop hg hkind hbraced => exact h.record hg hbraced
  | @reopen i j hstop hbraced =>
    have hcovered : (p.alter ⟨i, j⟩ fun _ => '_').Shows s := h.alter (masks_const (by decide)) _
    exact ⟨hcovered.board.reopen (h.board.getElem?_eq _ _ (by decide) hbraced.second), h.found⟩

theorem steps {stop : Nat} (h : p.Shows s) (hsteps : p.Steps stop q) : q.Shows s := by
  induction hsteps with
  | refl => exact h
  | tail _ hstep ih => exact ih.step hstep

/-- Comments and tags are looked for with the board showing the text. -/
theorem scanTags (h : p.Shows s) (i stop : Nat) : (Scan.scanTags i stop p).Shows s := by
  have hmarked : ∀ {p : Progress} {kind : Kind} (span : Span) {g : Char → Char}, p.Shows s → ¬ kind.IsBraced → Masks g →
      (p.record kind span g).Shows s := fun span g hp hkind hg => hp.record hg fun hbraced => absurd hbraced hkind
  fun_induction Scan.scanTags i stop p with
  | case1 i stop p hlt j hcomment hij ih => exact ih (hmarked _ h id (masks_const (by decide)))
  | case3 i stop p hlt hnone content j hclosed hij ih => exact ih (hmarked _ h id (masks_const (by decide)))
  | case5 i stop p hlt hnone hclosed content j hopen hij span marked inside scanned inner _ rest =>
    have hbegun : marked.Shows s := hmarked span h id masks_id
    have hinside : inside.Shows s := by
      unfold inside
      split
      · split
        · rename_i c hwithin
          exact inner c hwithin hbegun
        · exact hbegun
      · exact hbegun
    exact rest ((hinside.steps (steps_scanRange _ _ _)).alter masks_maskMarkup span)
  | case7 i stop p hlt hnone hclosed hopen ih => exact ih h
  | _ => exact h

end Progress.Shows

/-- Every construct that a scan of a text marks was found on a board that showed the text. -/
theorem found_of_mem_marks {s : Text} {mark : Mark} (h : mark ∈ (Scan.ofText s).marks) : mark.Found s := by
  have hbegun : Progress.Shows s ⟨Board.ofText s, []⟩ := ⟨Board.shows_ofText s, by simp⟩
  have hdone := (hbegun.scanTags 0 s.length).steps (steps_scanRange (s.length + 1) ⟨0, s.length⟩ _)
  exact hdone.found mark (List.mem_of_mem_filter (List.mem_mergeSort.mp h))

/-! ## Constructs -/

theorem take_two_eq {s : Text} {c d : Char} (hc : s[0]? = some c) (hd : s[1]? = some d) : s.take 2 = [c, d] := by
  obtain _ | ⟨a, _ | ⟨b, rest⟩⟩ := s
  · simp at hc
  · simp at hd
  · simp_all

/-- A text in double braces is made of them and of what stands between them. -/
theorem eq_braced {s : Text} (hwide : 4 ≤ s.length) (hfirst : s[0]? = some '\x7b') (hsecond : s[1]? = some '\x7b')
    (hbefore : s[s.length - 2]? = some '\x7d') (hlast : s[s.length - 1]? = some '\x7d') :
    s = ['\x7b', '\x7b'] ++ (s.take (s.length - 2)).drop 2 ++ ['\x7d', '\x7d'] := by
  have hends : s.drop (s.length - 2) = ['\x7d', '\x7d'] := by
    have hlength : (s.drop (s.length - 2)).length = 2 := by
      rw [List.length_drop]
      omega
    rw [← List.take_of_length_le (Nat.le_of_eq hlength)]
    refine take_two_eq ?_ ?_
    · rwa [List.getElem?_drop]
    · rw [List.getElem?_drop, ← hlast]
      congr 1
      omega
  calc s = s.take (s.length - 2) ++ s.drop (s.length - 2) := (List.take_append_drop _ _).symm
    _ = s.take 2 ++ Text.slice 2 (s.length - 2) s ++ s.drop (s.length - 2) := by
      rw [Text.take_append_slice (by omega)]
    _ = _ := by rw [take_two_eq hfirst hsecond, hends, Text.slice]

theorem zip_drop_take {α β : Type} (l : List α) (m : List β) (stop start : Nat) :
    ((l.take stop).drop start).zip ((m.take stop).drop start) = ((l.zip m).take stop).drop start := by
  rw [List.zip_eq_zipWith, List.zip_eq_zipWith, List.take_zipWith, List.drop_zipWith]

theorem argumentOf_written (cells written : Text) : (argumentOf cells written).written = '|' :: written := by
  unfold argumentOf
  split <;> rfl

theorem Board.getElem?_read (b : Board) (span : Span) (i : Nat) :
    (b.read span)[i]? = if span.start + i < span.stop then b[span.start + i]? else none := by
  rw [read, Array.getElem?_toList, Array.getElem?_extract]
  split <;> split <;> grind

theorem getElem?_slice (s : Text) (start stop i : Nat) :
    (Text.slice start stop s)[i]? = if start + i < stop then s[start + i]? else none := by
  rw [Text.slice, List.getElem?_drop, List.getElem?_take]

section

variable {s : Text} {mark : Mark}

/-- The braces and pipes of a construct's cells stand in its text at the same place. -/
theorem Mark.Found.getElem?_slice_eq (h : mark.Found s) {i : Nat} {c : Char} (hc : isFraming c = true)
    (hget : mark.cells[i]? = some c) : (Text.slice mark.span.start mark.span.stop s)[i]? = some c := by
  obtain ⟨b, hshows, hcells, -⟩ := h
  rw [hcells, Board.getElem?_read] at hget
  split at hget
  · rename_i hlt
    rw [getElem?_slice, if_pos hlt]
    exact hshows.getElem?_eq _ _ hc hget
  · simp at hget

theorem Mark.Found.length_cells (h : mark.Found s) :
    mark.cells.length = (Text.slice mark.span.start mark.span.stop s).length := by
  obtain ⟨b, hshows, hcells, -⟩ := h
  have hsize := hshows.size_eq
  simp only [hcells, Board.read, Array.length_toList, Array.size_extract, Text.slice, List.length_drop, List.length_take]
  omega

/-- The text of a construct in double braces begins and ends with them. -/
theorem Mark.Found.slice_eq_braced (h : mark.Found s) (hkind : mark.kind.IsBraced) :
    Text.slice mark.span.start mark.span.stop s = ['\x7b', '\x7b'] ++
      ((Text.slice mark.span.start mark.span.stop s).take
        ((Text.slice mark.span.start mark.span.stop s).length - 2)).drop 2 ++ ['\x7d', '\x7d'] := by
  obtain ⟨b, hshows, -, hbraced⟩ := h
  obtain ⟨hwide, hfirst, hsecond, hbefore, hlast⟩ := hbraced hkind
  have hat : ∀ {i c}, isFraming c = true → i < mark.span.stop → mark.span.start ≤ i → b[i]? = some c →
      (Text.slice mark.span.start mark.span.stop s)[i - mark.span.start]? = some c := by
    intro i c hc hlt hle hget
    rw [getElem?_slice, Nat.add_sub_cancel' hle, if_pos hlt]
    exact hshows.getElem?_eq i c hc hget
  have hlength : (Text.slice mark.span.start mark.span.stop s).length = mark.span.stop - mark.span.start := by
    obtain ⟨hin, -⟩ := List.getElem?_eq_some_iff.mp (hshows.getElem?_eq _ _ (by decide) hlast)
    rw [Text.slice, List.length_drop, List.length_take]
    omega
  refine eq_braced (by omega) ?_ ?_ ?_ ?_
  · simpa using hat (by decide) (by omega) (by omega) hfirst
  · simpa using hat (by decide) (by omega) (by omega) hsecond
  · rw [hlength, Nat.sub_right_comm]
    exact hat (by decide) (by omega) (by omega) hbefore
  · rw [hlength, Nat.sub_right_comm]
    exact hat (by decide) (by omega) (by omega) hlast

/-- The construct that a mark stands for is the text in its span, with its parts between the braces. -/
theorem Mark.Found.faithful_braceOf {scan : Scan} (h : mark.Found scan.text) (hkind : mark.kind.IsBraced) :
    (scan.braceOf mark).Faithful scan.text where
  written_eq_slice := rfl
  written_eq_parts := by
    generalize hwritten : Text.slice mark.span.start mark.span.stop scan.text = written
    have hcells := h.length_cells
    have hbraced := h.slice_eq_braced hkind
    have hpipe : ∀ x ∈ ((mark.cells.take (mark.cells.length - 2)).drop 2).zip
        ((written.take (written.length - 2)).drop 2), (x.1 == '|') = true → x.2 = '|' := by
      intro x hx hpipe
      rw [hcells, hwritten, zip_drop_take] at hx
      obtain ⟨i, hi⟩ := List.getElem?_of_mem (List.mem_of_mem_take (List.mem_of_mem_drop hx))
      obtain ⟨hcell, htext⟩ := List.getElem?_zip_eq_some.mp hi
      rw [beq_iff_eq] at hpipe
      rw [hpipe] at hcell
      have hsame := h.getElem?_slice_eq (by decide) hcell
      rw [hwritten, htext] at hsame
      exact Option.some.inj hsame
    have hparts := head_append_tail_pieces (fun x : Char × Char => x.1 == '|') (f := Prod.snd) hpipe
    rw [List.map_snd_zip (by simp [hcells, hwritten])] at hparts
    have hsnd : (fun part : Text × Text => part.2) ∘ List.unzip = List.map Prod.snd := by
      funext piece
      simp [List.unzip_eq_map]
    have hinner : (scan.braceOf mark).head ++ (scan.braceOf mark).arguments.flatMap (·.written) =
        (written.take (written.length - 2)).drop 2 := by
      rw [← hparts]
      simp [braceOf, textAt, hwritten, List.flatMap_map, argumentOf_written, List.unzip_eq_map, hsnd, ← List.map_tail]
    rw [List.append_assoc ['\x7b', '\x7b'], hinner]
    rw [hwritten] at hbraced
    exact hwritten.trans hbraced
  piped := by
    intro arg harg
    obtain ⟨part, -, rfl⟩ := List.mem_map.mp harg
    exact ⟨part.2, argumentOf_written _ _⟩

end

/-- A construct in double braces that a scan of a text reports is the text in its span, and its parts with the marks
between them are that text. -/
theorem faithful_of_mem_braces {s : Text} {brace : Brace} (h : brace ∈ (Scan.ofText s).braces) : brace.Faithful s := by
  obtain ⟨mark, hmark, rfl⟩ := List.mem_map.mp h
  obtain ⟨hmem, hkind⟩ := List.mem_filter.mp hmark
  have hbraced : mark.kind.IsBraced := by
    obtain hkind | hkind : mark.kind = .template ∨ mark.kind = .function := by simpa using hkind
    · rw [hkind]; trivial
    · rw [hkind]; trivial
  have hfound : mark.Found (Scan.ofText s).text := found_of_mem_marks hmem
  exact hfound.faithful_braceOf hbraced

end Scan

end PageMarkup
