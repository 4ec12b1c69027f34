import Mathlib.Data.List.Forall2
import PageMarkup.Text.CaseFold

/-!
# The same letter

Two characters are the same letter if they have the same lower case, or if their lower cases are variants of each other
(`SameLetter`). The code that stands for a letter decides that (`sameLetter_iff`): a letter belongs to at most one class
of variants, and the letter that stands for a class belongs to it.
-/
namespace PageMarkup

/-- Whether two characters are one letter: their lower cases are the same character or variants of each other. -/
def SameLetter (a b : Char) : Prop :=
  lowerSimple a = lowerSimple b ∨
    ∃ variants ∈ letterVariants, (lowerSimple a).toNat ∈ variants ∧ (lowerSimple b).toNat ∈ variants

/-- The class that is found for a variant is the one that it belongs to, so that no letter belongs to two classes. -/
theorem find?_letterVariants {variants : List Nat} (hvariants : variants ∈ letterVariants) {n : Nat}
    (hn : n ∈ variants) : letterVariants.find? (·.contains n) = some variants := by
  have hall : (letterVariants.all fun variants =>
      variants.all fun n => letterVariants.find? (·.contains n) = some variants) = true := by decide
  simpa using List.all_eq_true.mp (List.all_eq_true.mp hall variants hvariants) n hn

/-- A variant has the code that its class begins with. -/
theorem letterCode_of_mem {c : Char} {variants : List Nat} (hvariants : variants ∈ letterVariants)
    (hc : (lowerSimple c).toNat ∈ variants) : variants.head? = some (letterCode c) := by
  obtain ⟨n, others, rfl⟩ := List.exists_cons_of_ne_nil (List.ne_nil_of_mem hc)
  simp only [letterCode, find?_letterVariants hvariants hc, List.head?_cons]

theorem letterCode_of_notMem {c : Char} (hc : ∀ variants ∈ letterVariants, (lowerSimple c).toNat ∉ variants) :
    letterCode c = (lowerSimple c).toNat := by
  have hnone : letterVariants.find? (·.contains (lowerSimple c).toNat) = none := by
    simpa [List.find?_eq_none] using hc
  simp only [letterCode, hnone]

/-- The lower case of a letter with the code of a variant is a variant of the same class. -/
theorem mem_of_letterCode_eq {a b : Char} {variants : List Nat} (hvariants : variants ∈ letterVariants)
    (ha : (lowerSimple a).toNat ∈ variants) (h : letterCode a = letterCode b) : (lowerSimple b).toNat ∈ variants := by
  have hcode : letterCode b ∈ variants := List.mem_of_mem_head? (h ▸ letterCode_of_mem hvariants ha)
  by_cases hb : ∃ others ∈ letterVariants, (lowerSimple b).toNat ∈ others
  · obtain ⟨others, hothers, hmem⟩ := hb
    have hother : letterCode b ∈ others := List.mem_of_mem_head? (letterCode_of_mem hothers hmem)
    have hsame : variants = others := Option.some.inj
      ((find?_letterVariants hvariants hcode).symm.trans (find?_letterVariants hothers hother))
    exact hsame ▸ hmem
  · rwa [letterCode_of_notMem fun others hothers hmem => hb ⟨others, hothers, hmem⟩] at hcode

theorem sameLetter_iff {a b : Char} : sameLetter a b = true ↔ SameLetter a b := by
  rw [sameLetter, beq_iff_eq]
  constructor
  · intro h
    by_cases ha : ∃ variants ∈ letterVariants, (lowerSimple a).toNat ∈ variants
    · obtain ⟨variants, hvariants, hmem⟩ := ha
      exact Or.inr ⟨variants, hvariants, hmem, mem_of_letterCode_eq hvariants hmem h⟩
    · have hb : ∀ variants ∈ letterVariants, (lowerSimple b).toNat ∉ variants :=
        fun variants hvariants hmem => ha ⟨variants, hvariants, mem_of_letterCode_eq hvariants hmem h.symm⟩
      rw [letterCode_of_notMem fun variants hvariants hmem => ha ⟨variants, hvariants, hmem⟩,
        letterCode_of_notMem hb] at h
      exact Or.inl (Char.toNat_inj.mp h)
  · rintro (hlower | ⟨variants, hvariants, ha, hb⟩)
    · simp only [letterCode, hlower]
    · exact Option.some.inj ((letterCode_of_mem hvariants ha).symm.trans (letterCode_of_mem hvariants hb))

theorem Text.sameLetters_iff {s t : Text} : Text.sameLetters s t = true ↔ List.Forall₂ SameLetter s t := by
  induction s generalizing t with
  | nil => cases t <;> simp [sameLetters]
  | cons a s ih => cases t <;> simp [sameLetters, sameLetter_iff, ih]

end PageMarkup
