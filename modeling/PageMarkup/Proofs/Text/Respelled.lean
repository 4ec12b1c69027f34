import Mathlib.Data.List.Infix
import PageMarkup.Proofs.Text.Letters
import PageMarkup.Proofs.Text.Spacing
import PageMarkup.Text.Direction

/-!
# Respelled texts

Capitalizing and lowering exchange letters for letters and leave everything else where it is (`respelled_capitalize`,
`respelled_lower`). A pattern without letters occurs in a respelled text only where it occurred before
(`Respelled.infixOf`), so that blanks, marks and punctuation stay as they were.
-/
namespace PageMarkup

/-- Whether no character of a text is a letter can be evaluated. -/
theorem forall_not_isLetter {p : Text} (h : p.any isLetter = false) : ∀ d ∈ p, isLetter d = false := by
  simpa using List.any_eq_false.mp h

theorem isLetter_of_isBlank {c : Char} (h : isBlank c = true) : isLetter c = false := by
  rw [Bool.eq_false_iff]
  intro hletter
  simp only [isBlank, blankRuns, isLetter, inRuns, letterZones, List.any_cons, List.any_nil, Bool.or_eq_true,
    Bool.and_eq_true, decide_eq_true_eq, Bool.false_eq_true, or_false] at h hletter
  omega

theorem isLetter_of_isDirectionMark {c : Char} (h : isDirectionMark c = true) : isLetter c = false := by
  rw [Bool.eq_false_iff]
  intro hletter
  simp only [isDirectionMark, Bool.or_eq_true, Bool.and_eq_true, decide_eq_true_eq] at h
  obtain (rfl | rfl) | hcode := h
  · revert hletter
    decide
  · revert hletter
    decide
  · simp only [isLetter, inRuns, letterZones, List.any_cons, List.any_nil, Bool.or_eq_true, Bool.and_eq_true,
      decide_eq_true_eq, Bool.false_eq_true, or_false] at hletter
    have hfirst : '\u202a'.toNat = 0x202A := rfl
    have hlast : '\u202e'.toNat = 0x202E := rfl
    omega

namespace Text

/-- Whether the second text is the first one with letters for some of its letters. -/
inductive Respelled : Text → Text → Prop
  | nil : Respelled [] []
  | keep {s t : Text} (c : Char) (rest : Respelled s t) : Respelled (c :: s) (c :: t)
  | exchange {s t letters : Text} {c : Char} (letter : isLetter c = true) (some : letters ≠ [])
      (only : ∀ d ∈ letters, isLetter d = true) (rest : Respelled s t) : Respelled (c :: s) (letters ++ t)

theorem Respelled.refl (s : Text) : Respelled s s := by
  induction s with
  | nil => exact .nil
  | cons c s ih => exact .keep c ih

theorem respelled_capitalize (s : Text) : Respelled s (capitalize s) := by
  cases s with
  | nil => exact .nil
  | cons c s =>
    obtain hsame | ⟨hc, hletters, -⟩ := upperChar_cases c
    · rw [capitalize, hsame]
      exact .refl _
    · exact .exchange hc (upperChar_ne_nil c) hletters (.refl s)

theorem respelled_lower (s : Text) : Respelled s (lower s) := by
  suffices h : ∀ before, Respelled s (lowerBehind before s) from h []
  induction s with
  | nil => exact fun _ => .nil
  | cons c s ih =>
    intro before
    rw [lowerBehind]
    split
    · rename_i hsigma
      subst hsigma
      refine .exchange (by decide) (by simp) ?_ (ih _)
      intro d hd
      obtain rfl := List.mem_singleton.mp hd
      split <;> decide
    · obtain hsame | ⟨hc, hne, hletters⟩ := lowerChar_cases c
      · rw [hsame]
        exact .keep c (ih _)
      · exact .exchange hc hne hletters (ih _)

namespace Respelled

variable {s t p : Text}

theorem eq_nil_iff (h : Respelled s t) : t = [] ↔ s = [] := by
  cases h with
  | nil => rfl
  | keep c rest => simp
  | exchange hc hne hletters rest => simp [hne]

theorem mem_or_isLetter (h : Respelled s t) {d : Char} (hd : d ∈ t) : d ∈ s ∨ isLetter d = true := by
  induction h with
  | nil => exact Or.inl hd
  | keep c rest ih =>
    obtain rfl | hrest := List.mem_cons.mp hd
    · exact Or.inl List.mem_cons_self
    · exact (ih hrest).imp_left (List.mem_cons_of_mem c)
  | exchange hc hne hletters rest ih =>
    obtain hletter | hrest := List.mem_append.mp hd
    · exact Or.inr (hletters d hletter)
    · exact (ih hrest).imp_left (List.mem_cons_of_mem _)

theorem count_eq (h : Respelled s t) {d : Char} (hd : isLetter d = false) : t.count d = s.count d := by
  induction h with
  | nil => rfl
  | keep c rest ih => rw [List.count_cons, List.count_cons, ih]
  | exchange hc hne hletters rest ih =>
    have hzero : ∀ l : Text, (∀ e ∈ l, isLetter e = true) → l.count d = 0 := by
      intro l hl
      refine List.count_eq_zero.mpr fun hmem => ?_
      simp [hl d hmem] at hd
    rename_i c
    have hsource := hzero [c] (by simpa using hc)
    rw [List.count_append, hzero _ hletters, ← List.singleton_append, List.count_append, hsource, ih]

/-- A text without letters is respelled from itself alone. -/
theorem eq_of_forall_not_isLetter (h : Respelled s t) (ht : ∀ d ∈ t, isLetter d = false) : s = t := by
  induction h with
  | nil => rfl
  | keep c rest ih => rw [ih fun d hd => ht d (List.mem_cons_of_mem c hd)]
  | exchange hc hne hletters rest ih =>
    obtain ⟨d, ds, rfl⟩ := List.exists_cons_of_ne_nil hne
    have hletter := hletters d List.mem_cons_self
    simp [ht d (by simp)] at hletter

/-! ### Patterns without letters -/

theorem prefixOf (h : Respelled s t) (hp : ∀ d ∈ p, isLetter d = false) (hbegin : p <+: t) : p <+: s := by
  induction h generalizing p with
  | nil => exact hbegin
  | keep c rest ih =>
    cases p with
    | nil => exact List.nil_prefix
    | cons d p =>
      obtain ⟨rfl, hrest⟩ := List.cons_prefix_cons.mp hbegin
      exact List.cons_prefix_cons.mpr ⟨rfl, ih (fun e he => hp e (List.mem_cons_of_mem d he)) hrest⟩
  | exchange hc hne hletters rest ih =>
    cases p with
    | nil => exact List.nil_prefix
    | cons d p =>
      obtain ⟨e, es, rfl⟩ := List.exists_cons_of_ne_nil hne
      obtain ⟨rfl, -⟩ := List.cons_prefix_cons.mp hbegin
      have hletter := hletters d List.mem_cons_self
      simp [hp d List.mem_cons_self] at hletter

theorem suffixOf (h : Respelled s t) (hp : ∀ d ∈ p, isLetter d = false) (hsuffix : p <:+ t) : p <:+ s := by
  induction h with
  | nil => exact hsuffix
  | keep c rest ih =>
    obtain rfl | hrest := List.suffix_cons_iff.mp hsuffix
    · rw [(keep c rest).eq_of_forall_not_isLetter hp]
    · exact (ih hrest).trans (List.suffix_cons c _)
  | @exchange s t letters c hc hne hletters rest ih =>
    have hskip : ∀ l : Text, (∀ e ∈ l, isLetter e = true) → p <:+ l ++ t → p <:+ t := by
      intro l hl hend
      induction l with
      | nil => exact hend
      | cons e l ihl =>
        obtain rfl | hrest := List.suffix_cons_iff.mp hend
        · have hletter := hl e List.mem_cons_self
          simp [hp e List.mem_cons_self] at hletter
        · exact ihl (fun d hd => hl d (List.mem_cons_of_mem e hd)) hrest
    exact (ih (hskip letters hletters hsuffix)).trans (List.suffix_cons _ _)

theorem infixOf (h : Respelled s t) (hp : ∀ d ∈ p, isLetter d = false) (hpart : p <:+: t) : p <:+: s := by
  induction h with
  | nil => exact hpart
  | keep c rest ih =>
    obtain hhere | hrest := List.infix_cons_iff.mp hpart
    · exact ((keep c rest).prefixOf hp hhere).isInfix
    · exact (ih hrest).trans (List.suffix_cons c _).isInfix
  | @exchange s t letters c hc hne hletters rest ih =>
    have hskip : ∀ l : Text, (∀ e ∈ l, isLetter e = true) → p <:+: l ++ t → p <:+: t := by
      intro l hl hmid
      induction l with
      | nil => exact hmid
      | cons e l ihl =>
        obtain hhere | hrest := List.infix_cons_iff.mp hmid
        · cases p with
          | nil => exact List.nil_infix
          | cons d p =>
            obtain ⟨rfl, -⟩ := List.cons_prefix_cons.mp hhere
            have hletter := hl d List.mem_cons_self
            simp [hp d List.mem_cons_self] at hletter
        · exact ihl (fun d hd => hl d (List.mem_cons_of_mem e hd)) hrest
    exact (ih (hskip letters hletters hpart)).trans (List.suffix_cons _ _).isInfix

/-! ### Blanks -/

theorem isSpaced (h : Respelled s t) (hs : IsSpaced s) : IsSpaced t := by
  constructor
  · rw [List.isChain_iff_forall_rel_of_append_cons_cons]
    rintro c d before behind rfl hc
    by_contra hd
    have hp : ∀ e ∈ [c, d], isLetter e = false := by
      simpa using ⟨isLetter_of_isBlank hc, isLetter_of_isBlank (by simpa using hd)⟩
    have hpair : [c, d] <:+: s := h.infixOf hp ⟨before, behind, by simp⟩
    have hchain := List.IsChain.infix hs.single hpair
    simp [hc] at hchain
    exact hd hchain
  · intro c hc hblank
    obtain hmem | hletter := h.mem_or_isLetter hc
    · exact hs.space c hmem hblank
    · simp [isLetter_of_isBlank hblank] at hletter

theorem trim_eq_self (h : Respelled s t) (hs : trim s = s) : trim t = t := by
  have hp : ∀ c, isBlank c = true → ∀ d ∈ [c], isLetter d = false := by
    intro c hc d hd
    rw [List.mem_singleton.mp hd]
    exact isLetter_of_isBlank hc
  rw [trim_eq_self_iff, trimStart_eq_self_iff, trimEnd_eq_self_iff] at hs ⊢
  obtain ⟨hstart, hend⟩ := hs
  exact ⟨fun c hc hbegin => hstart c hc (h.prefixOf (hp c hc) hbegin),
    fun c hc hsuffix => hend c hc (h.suffixOf (hp c hc) hsuffix)⟩

end Respelled

end Text

end PageMarkup
