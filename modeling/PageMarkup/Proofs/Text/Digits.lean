import Mathlib.Tactic.IntervalCases
import PageMarkup.Proofs.Text.Trim
import PageMarkup.Text.Digit

/-!
# Numerals of natural numbers

A natural number is written with plain digits, and reading them gives it back. The numeral has no blank and begins
with no zero, unless it is that of zero.
-/
namespace PageMarkup.Text

theorem isDigit_iff {c : Char} : c.isDigit = true ↔ 48 ≤ c.toNat ∧ c.toNat ≤ 57 := by
  rw [Char.isDigit, Bool.and_eq_true, decide_eq_true_eq, decide_eq_true_eq]
  exact Iff.rfl

theorem decimalValue?_of_isDigit {c : Char} (h : c.isDigit = true) : decimalValue? c = some (c.toNat - 48) := by
  obtain ⟨hlow, hhigh⟩ := isDigit_iff.mp h
  have hbelow : c.toNat < 48 + 10 := by omega
  simp [decimalValue?, decimalZeros, hlow, hbelow]

/-- Plain digits are read as they are written. -/
theorem decimalFrom_eq_ofDigitChars {s : Text} (h : ∀ c ∈ s, c.isDigit = true) (value : Nat) :
    decimalFrom value s = Nat.ofDigitChars 10 s value := by
  induction s generalizing value with
  | nil => simp [decimalFrom]
  | cons c rest ih =>
    rw [decimalFrom, Nat.ofDigitChars_cons, decimalValue?_of_isDigit (h c List.mem_cons_self),
      ih (fun d hd => h d (List.mem_cons_of_mem _ hd)), Nat.mul_comm]
    rfl

theorem isDigit_of_mem_ofNat {n : Nat} {c : Char} (h : c ∈ ofNat n) : c.isDigit = true :=
  Nat.isDigit_of_mem_toDigits (by decide) (by decide) h

@[simp] theorem decimal_ofNat (n : Nat) : decimal (ofNat n) = n := by
  rw [decimal, decimalFrom_eq_ofDigitChars fun c => isDigit_of_mem_ofNat]
  exact Nat.ofDigitChars_ten_toDigits

theorem ofNat_ne_nil (n : Nat) : ofNat n ≠ [] := Nat.toDigits_ne_nil

/-- The numeral of a positive number begins with one of the digits from `1` to `9`. -/
theorem exists_ofNat_eq_cons {n : Nat} (h : 0 < n) : ∃ c rest, ofNat n = c :: rest ∧ '1' ≤ c ∧ c ≤ '9' := by
  induction n using Nat.strongRecOn with
  | ind n ih =>
    by_cases hsmall : n < 10
    · refine ⟨n.digitChar, [], Nat.toDigits_of_lt_base hsmall, ?_⟩
      interval_cases n <;> decide
    · obtain ⟨c, rest, hfront, hdigit⟩ := ih (n / 10) (by omega) (by omega)
      refine ⟨c, rest ++ [(n % 10).digitChar], ?_, hdigit⟩
      rw [ofNat, Nat.toDigits_of_base_le (by decide) (by omega)]
      rw [ofNat] at hfront
      rw [hfront, List.cons_append]

theorem isBlank_of_isDigit {c : Char} (h : c.isDigit = true) : isBlank c = false := by
  obtain ⟨hlow, hhigh⟩ := isDigit_iff.mp h
  simp only [isBlank, blankRuns, List.any_cons, List.any_nil, Bool.or_false, Bool.or_eq_false_iff,
    Bool.and_eq_false_iff, decide_eq_false_iff_not]
  omega

@[simp] theorem trim_ofNat (n : Nat) : trim (ofNat n) = ofNat n :=
  trim_of_forall_not_isBlank fun _ hc => isBlank_of_isDigit (isDigit_of_mem_ofNat hc)

end PageMarkup.Text
