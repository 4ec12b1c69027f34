import PageMarkup.Proofs.Scan.Comments
import PageMarkup.Proofs.Text.Search
import PageMarkup.Scan.Cut

/-!
# Texts without their comments

Comments can be taken out of a text from left to right. A character that opens no tag stays
(`stripComments_cons_of_ne`), a comment goes together with everything up to its first closing mark
(`stripComments_comment_append`), and in both cases the rest is what it would be on its own. So where a text is made of
whole comments and of such characters (`Uncommented`), what follows it does not matter to it, and it does not matter to
what follows.
-/
namespace PageMarkup

open Scan (Board Span)

def commentClosing : Text := "-->".toList

/-! ## The board of a text -/

namespace Scan

/-- What the board of a text shows for a character. -/
theorem Board.getElem?_ofText (s : Text) (i : Nat) :
    (Board.ofText s)[i]? = s[i]?.map fun c => if c.toNat < 0x80 then c else '?' := by
  simp [Board.ofText]

/-- Whether a board shows the character, and shows it for no other one. -/
def isShown (c : Char) : Bool := c.toNat < 0x80 && c != '?'

/-- The board of a text shows the characters of ASCII as they are, and nothing else as one of them but a question
mark. -/
theorem Board.holds_ofText {s : Text} {i : Nat} {c : Char} (hc : isShown c = true) :
    (Board.ofText s).holds i c = true ↔ s[i]? = some c := by
  obtain ⟨hascii, hmark⟩ : c.toNat < 0x80 ∧ c ≠ '?' := by simpa [isShown] using hc
  rw [Board.holds, getElem?_ofText, beq_iff_eq, Option.map_eq_some_iff]
  constructor
  · rintro ⟨x, hx, heq⟩
    split at heq
    · rw [hx, heq]
    · exact absurd heq.symm hmark
  · intro h
    exact ⟨c, h, by rw [if_pos hascii]⟩

/-- The board of a text reads what the text has, as far as that is of ASCII. -/
theorem Board.reads_ofText {s t : Text} {stop i : Nat} (ht : t.all isShown = true)
    (h : (Board.ofText s).reads stop i t = true) : t <+: s.drop i := by
  induction t generalizing i with
  | nil => exact List.nil_prefix
  | cons c rest ih =>
    obtain ⟨hc, hrest⟩ : isShown c = true ∧ rest.all isShown = true := by simpa using ht
    simp only [Board.reads, Bool.and_eq_true, decide_eq_true_eq] at h
    obtain ⟨hi, hget⟩ := List.getElem?_eq_some_iff.mp ((holds_ofText hc).mp h.1.2)
    rw [List.drop_eq_getElem_cons hi, hget, List.cons_prefix_cons]
    exact ⟨rfl, ih hrest h.2⟩

theorem Board.reads_ofText_of_prefix {s t : Text} {stop i : Nat} (ht : t.all isShown = true)
    (hstop : i + t.length ≤ stop) (h : t <+: s.drop i) : (Board.ofText s).reads stop i t = true := by
  induction t generalizing i with
  | nil => rfl
  | cons c rest ih =>
    obtain ⟨hc, hrest⟩ : isShown c = true ∧ rest.all isShown = true := by simpa using ht
    rw [List.length_cons] at hstop
    have hi : i < s.length := by
      by_contra hge
      rw [List.drop_eq_nil_of_le (by omega)] at h
      simp at h
    rw [List.drop_eq_getElem_cons hi, List.cons_prefix_cons] at h
    have hhere : (Board.ofText s).holds i c = true :=
      (holds_ofText hc).mpr (List.getElem?_eq_some_iff.mpr ⟨hi, h.1.symm⟩)
    simp only [Board.reads, Bool.and_eq_true, decide_eq_true_eq]
    exact ⟨⟨by omega, hhere⟩, ih hrest (by omega) h.2⟩

/-- The board of a text behind another one. -/
theorem Board.extends_ofText (a s : Text) : (Board.ofText s).Extends a.length 0 (Board.ofText (a ++ s)) := by
  intro k _
  rw [getElem?_ofText, getElem?_ofText, List.getElem?_append_right (Nat.le_add_left _ _), Nat.add_sub_cancel]

/-- The first index at which the board reads a text is found. -/
theorem Board.find?_eq_some_of {b : Board} {stop i j : Nat} {s : Text} (hi : i ≤ j) (hj : j < stop)
    (hreads : b.reads stop j s = true) (hbefore : ∀ k, i ≤ k → k < j → b.reads stop k s = false) :
    b.find? stop s i = some j := by
  fun_induction Board.find? b stop s i with
  | case1 i hlt hhere =>
    by_contra hne
    have hfirst := hbefore i (Nat.le_refl i) (by grind)
    simp [hfirst] at hhere
  | case2 i hlt hhere ih =>
    have hne : i ≠ j := by
      rintro rfl
      exact hhere hreads
    exact ih (by omega) fun k hk => hbefore k (by omega)
  | case3 i hge => omega

/-! ## Comments of texts -/

/-- The spans of the comments of a text, read off its board. -/
def commentsOf (s : Text) : List Span := commentSpans (Board.ofText s) 0 s.length

theorem spans_comments_ofText (s : Text) : (Scan.ofText s).comments.map (·.span) = commentsOf s := by
  have htags := finds_scanTags_self 0 s.length ⟨Board.ofText s, []⟩
  have hrange := finds_scanRange (s.length + 1) ⟨0, s.length⟩ (scanTags 0 s.length ⟨Board.ofText s, []⟩)
  have hall := (htags.trans hrange).comments_eq
  rw [List.append_nil] at hall
  calc (Scan.ofText s).comments.map (·.span)
      = ((scanRange (s.length + 1) ⟨0, s.length⟩
          (scanTags 0 s.length ⟨Board.ofText s, []⟩)).comments.map (·.span)).reverse := List.map_reverse
    _ = commentsOf s := by
      rw [← List.reverse_reverse (commentsOf s)]
      exact congrArg List.reverse (hall.trans (List.append_nil _))

/-- The comments of a text behind another one in which none is open at the end. -/
theorem commentSpans_append (a s : Text) :
    commentSpans (Board.ofText (a ++ s)) a.length (a ++ s).length = (commentsOf s).map (Span.shift a.length) := by
  have h : commentSpans (Board.ofText (a ++ s)) (0 + a.length) (s.length + a.length) =
      (commentSpans (Board.ofText s) 0 s.length).map (Span.shift a.length) :=
    commentSpans_shift (Board.extends_ofText a s)
  rwa [Nat.zero_add, Nat.add_comm s.length, ← List.length_append] at h

/-- A text that opens no comment has none. -/
theorem commentsOf_eq_nil {s : Text} (h : Text.includes commentOpening s = false) : commentsOf s = [] := by
  refine commentSpans_eq_nil fun i stop => ?_
  by_contra hreads
  rw [Bool.not_eq_false] at hreads
  have hbegins := Board.reads_ofText (by decide) hreads
  have hincludes : Text.includes commentOpening s = true :=
    (Text.includes_iff _ _).mpr (hbegins.isInfix.trans (List.drop_suffix i s).isInfix)
  rw [h] at hincludes
  simp at hincludes

end Scan

/-! ## Cutting out spans -/

theorem removeSpans_append (a s : Text) (spans : List Span) :
    removeSpans (a ++ s) (spans.map (Span.shift a.length)) = a ++ removeSpans s spans := by
  induction spans with
  | nil => rfl
  | cons span rest ih =>
    have hmax : max (span.start + a.length) (span.stop + a.length) = a.length + max span.start span.stop := by omega
    rw [List.map_cons, removeSpans, ih, removeSpans]
    dsimp only [Span.shift]
    rw [hmax, Nat.add_comm span.start, List.take_length_add_append, List.drop_length_add_append, List.append_assoc]

/-- A span at the start of a text goes, and the rest is what it would be on its own. -/
theorem removeSpans_of_start (a s : Text) (spans : List Span) :
    removeSpans (a ++ s) (⟨0, a.length⟩ :: spans.map (Span.shift a.length)) = removeSpans s spans := by
  rw [removeSpans, removeSpans_append]
  simp

/-! ## Stripping -/

/-- A text without its comments, whether it opens one or not. -/
theorem stripComments_eq (s : Text) : stripComments s = removeSpans s (Scan.commentsOf s) := by
  unfold stripComments
  split
  · rw [Scan.spans_comments_ofText]
  · rename_i hnone
    rw [Scan.commentsOf_eq_nil (by simpa using hnone)]
    rfl

/-- A character that opens no tag stays, and the rest is what it would be on its own. -/
theorem stripComments_cons_of_ne {c : Char} (hc : c ≠ '<') (s : Text) : stripComments (c :: s) = c :: stripComments s := by
  have hcell : (Board.ofText (c :: s)).holds 0 '<' = false := by
    rw [Bool.eq_false_iff]
    intro h
    have hget := (Board.holds_ofText (by decide)).mp h
    exact hc (by simpa using hget)
  have hcomments : Scan.commentsOf (c :: s) = (Scan.commentsOf s).map (Span.shift 1) := by
    rw [Scan.commentsOf, Scan.commentSpans_of_not_holds hcell]
    exact Scan.commentSpans_append [c] s
  rw [stripComments_eq, hcomments, stripComments_eq s]
  exact removeSpans_append [c] s _

/-- A comment ends at its first closing mark. -/
theorem commentEnd?_ofText {body : Text} (hbody : ¬ commentClosing <:+: body ++ ['-', '-']) (s : Text) :
    Scan.commentEnd? (Board.ofText (commentOpening ++ body ++ commentClosing ++ s))
      (commentOpening ++ body ++ commentClosing ++ s).length 0 =
        some (commentOpening ++ body ++ commentClosing).length := by
  generalize hall : commentOpening ++ body ++ commentClosing ++ s = all
  have hlength : all.length = body.length + 7 + s.length := by
    rw [← hall]
    simp [commentOpening, commentClosing]
    omega
  have hend : (commentOpening ++ body ++ commentClosing).length = body.length + 4 + 3 := by
    simp [commentOpening, commentClosing]
  have hopens : (Board.ofText all).reads all.length 0 commentOpening = true := by
    refine Board.reads_ofText_of_prefix (by decide) ?_ ?_
    · simp [commentOpening]
      omega
    · exact ⟨body ++ commentClosing ++ s, by simp [← hall]⟩
  have hinner : ∀ k, all.drop (k + 4) = (body ++ ['-', '-'] ++ '>' :: s).drop k := by
    intro k
    rw [← hall, Nat.add_comm, ← List.drop_drop]
    simp [commentOpening, commentClosing]
  have hcloses : (Board.ofText all).reads all.length (body.length + 4) commentClosing = true := by
    refine Board.reads_ofText_of_prefix (by decide) ?_ ?_
    · simp [commentClosing]
      omega
    · exact ⟨s, by simp [hinner, commentClosing]⟩
  have hfirst : ∀ k, 0 + 4 ≤ k → k < body.length + 4 →
      (Board.ofText all).reads all.length k commentClosing = false := by
    intro k hle hlt
    by_contra hreads
    rw [Bool.not_eq_false] at hreads
    have hbegins := Board.reads_ofText (by decide) hreads
    obtain ⟨l, rfl⟩ := Nat.exists_eq_add_of_le' hle
    rw [Nat.zero_add, hinner, List.drop_append_of_le_length (by simp; omega)] at hbegins
    have hshort : commentClosing <+: (body ++ ['-', '-']).drop l := by
      refine List.prefix_of_prefix_length_le hbegins (List.prefix_append _ _) ?_
      simp [commentClosing]
      omega
    exact hbody (hshort.isInfix.trans (List.drop_suffix l _).isInfix)
  have hfind := Board.find?_eq_some_of (by omega) (by omega) hcloses hfirst
  have hopens' : (Board.ofText all).reads all.length 0 ['<', '!', '-', '-'] = true := hopens
  have hfind' : (Board.ofText all).find? all.length ['-', '-', '>'] (0 + 4) = some (body.length + 4) := hfind
  rw [Scan.commentEnd?, if_pos hopens', hfind', hend]

theorem stripComments_comment_append {body : Text} (hbody : ¬ commentClosing <:+: body ++ ['-', '-']) (s : Text) :
    stripComments (commentOpening ++ body ++ commentClosing ++ s) = stripComments s := by
  have hcomments : Scan.commentsOf (commentOpening ++ body ++ commentClosing ++ s) =
      ⟨0, (commentOpening ++ body ++ commentClosing).length⟩ ::
        (Scan.commentsOf s).map (Span.shift (commentOpening ++ body ++ commentClosing).length) := by
    rw [Scan.commentsOf, Scan.commentSpans_of_comment (commentEnd?_ofText hbody s), Scan.commentSpans_append]
  rw [stripComments_eq, hcomments, removeSpans_of_start, ← stripComments_eq]

/-! ## Whole comments -/

/-- A text that is made of whole comments and of characters that open no tag, with what is left of it without the
comments. -/
inductive Uncommented : Text → Text → Prop where
  | nil : Uncommented [] []
  | keep {c : Char} {s kept : Text} (hc : c ≠ '<') (h : Uncommented s kept) : Uncommented (c :: s) (c :: kept)
  | drop {body s kept : Text} (hbody : ¬ commentClosing <:+: body ++ ['-', '-']) (h : Uncommented s kept) :
      Uncommented (commentOpening ++ body ++ commentClosing ++ s) kept

namespace Uncommented

variable {s kept : Text}

/-- What stands in front of a text, and ends outside of comments, is stripped on its own. -/
theorem stripComments_append (h : Uncommented s kept) (behind : Text) :
    stripComments (s ++ behind) = kept ++ stripComments behind := by
  induction h with
  | nil => rfl
  | keep hc _ ih => rw [List.cons_append, stripComments_cons_of_ne hc, ih, List.cons_append]
  | drop hbody _ ih => rw [List.append_assoc, stripComments_comment_append hbody, ih]

theorem stripComments_eq_kept (h : Uncommented s kept) : stripComments s = kept := by
  have hall := h.stripComments_append []
  rwa [List.append_nil, show stripComments [] = [] from rfl, List.append_nil] at hall

theorem notMem_kept (h : Uncommented s kept) : '<' ∉ kept := by
  induction h with
  | nil => simp
  | keep hc _ ih => simp [Ne.symm hc, ih]
  | drop _ _ ih => exact ih

theorem sublist (h : Uncommented s kept) : kept.Sublist s := by
  induction h with
  | nil => exact List.Sublist.refl _
  | keep _ _ ih => exact ih.cons_cons _
  | drop _ _ ih => exact ih.trans (List.sublist_append_right _ _)

/-- A text without opening brackets has nothing to be stripped. -/
theorem of_notMem (h : '<' ∉ s) : Uncommented s s := by
  induction s with
  | nil => exact nil
  | cons c s ih =>
    simp only [List.mem_cons, not_or] at h
    exact keep (Ne.symm h.1) (ih h.2)

theorem eq_of_notMem (h : Uncommented s kept) (hopen : '<' ∉ s) : kept = s := by
  induction h with
  | nil => rfl
  | keep _ _ ih =>
    rw [ih fun hmem => hopen (List.mem_cons_of_mem _ hmem)]
  | drop _ _ _ => exact absurd (by simp [commentOpening]) hopen

/-- A text without brackets at the end is no part of a comment. -/
theorem exists_of_append {t : Text} (hopen : '<' ∉ t) (hclose : '>' ∉ t) (h : Uncommented (s ++ t) kept) :
    ∃ front, Uncommented s front ∧ kept = front ++ t := by
  generalize hall : s ++ t = all at h
  induction h generalizing s with
  | nil =>
    obtain ⟨rfl, rfl⟩ := List.append_eq_nil_iff.mp hall
    exact ⟨[], nil, rfl⟩
  | @keep c rest kept hc h ih =>
    cases s with
    | nil => exact ⟨[], nil, (h.keep hc).eq_of_notMem (hall ▸ hopen) |>.trans hall.symm⟩
    | cons d s =>
      obtain ⟨rfl, hrest⟩ := List.cons.inj hall
      obtain ⟨front, hfront, rfl⟩ := ih hrest
      exact ⟨d :: front, hfront.keep hc, rfl⟩
  | @drop body rest kept hbody h ih =>
    obtain ⟨mid, hs, ht⟩ | ⟨mid, rfl, hrest⟩ := List.append_eq_append_iff.mp hall
    · -- The closing mark of the comment would have to stand in `t`.
      have hmid : mid = [] := by
        by_contra hne
        have hlast : (s ++ mid).getLast? = some '>' := by
          rw [← hs]
          simp [commentClosing]
        rw [List.getLast?_append_of_ne_nil _ hne] at hlast
        exact hclose (ht ▸ List.mem_append_left rest (List.mem_of_getLast? hlast))
      subst hmid
      obtain ⟨front, hfront, rfl⟩ := ih (s := []) ht
      rw [List.append_nil] at hs
      rw [← hs, ← List.append_nil commentClosing, ← List.append_assoc]
      exact ⟨front, hfront.drop hbody, rfl⟩
    · obtain ⟨front, hfront, rfl⟩ := ih hrest.symm
      exact ⟨front, hfront.drop hbody, rfl⟩

end Uncommented

end PageMarkup
