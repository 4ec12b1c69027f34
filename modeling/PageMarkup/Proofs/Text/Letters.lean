import Mathlib.Data.List.Basic
import PageMarkup.Text.Case

/-!
# What the tables of letter case hold

Facts on every entry of the case tables. A set of code points is kept as the bits of one number, so that two of them
are compared by a single operation on numbers (`notMem_of_land_eq_zero`). From them: a letter takes and gives letters
alone (`moveCase_cases`, `upperChar_cases`), a letter in upper case has no other upper case (`upperChar_head`), a text
in lower case has no other lower case (`lower_lower`), and a letter that is exchanged for another one of the same lower
case does not change the lower case of what stands behind it (`lower_upperChar_append`).
-/
namespace PageMarkup

/-! ## Sets of code points -/

/-- The numbers as the bits of one number. -/
def bits (codes : List Nat) : Nat := codes.foldr (fun n set => 1 <<< n ||| set) 0

theorem testBit_bits (codes : List Nat) (n : Nat) : (bits codes).testBit n = decide (n ∈ codes) := by
  induction codes with
  | nil => simp [bits]
  | cons m codes ih =>
    have hstep : bits (m :: codes) = 1 <<< m ||| bits codes := rfl
    have hone : (1 <<< m).testBit n = decide (n = m) := by
      rw [Nat.one_shiftLeft, Nat.testBit_two_pow]
      simp [eq_comm]
    rw [hstep, Nat.testBit_or, hone, ih]
    simp

theorem notMem_of_land_eq_zero {l m : List Nat} {n : Nat} (h : bits l &&& bits m = 0) (hn : n ∈ l) : n ∉ m := by
  have hbit := congrArg (Nat.testBit · n) h
  simpa [Nat.testBit_and, testBit_bits, hn] using hbit

theorem mem_of_land_eq {l m : List Nat} {n : Nat} (h : bits l &&& bits m = bits l) (hn : n ∈ l) : n ∈ m := by
  have hbit := congrArg (Nat.testBit · n) h
  simpa [Nat.testBit_and, testBit_bits, hn] using hbit

/-- The code points that the runs cover. -/
def codesOf (runs : List (Nat × Nat)) : List Nat := runs.flatMap fun run => List.range' run.1 (run.2 + 1 - run.1)

theorem inRuns_eq (runs : List (Nat × Nat)) (c : Char) : inRuns runs c = decide (c.toNat ∈ codesOf runs) := by
  rw [Bool.eq_iff_iff, decide_eq_true_iff]
  simp only [inRuns, codesOf, List.any_eq_true, List.mem_flatMap, List.mem_range'_1, Bool.and_eq_true,
    decide_eq_true_iff]
  constructor
  · rintro ⟨run, hrun, hfirst, hlast⟩
    exact ⟨run, hrun, hfirst, by omega⟩
  · rintro ⟨run, hrun, hfirst, hlast⟩
    exact ⟨run, hrun, hfirst, by omega⟩

namespace CaseRun

/-- The code points that the run moves. -/
def sources (run : CaseRun) : List Nat :=
  (List.range ((run.last - run.first) / run.step + 1)).map fun k => run.first + run.step * k

/-- The code points that the run moves them to. -/
def targets (run : CaseRun) : List Nat := run.sources.map fun n : Nat => ((n : Int) + run.shift).toNat

theorem mem_sources_of_covers {run : CaseRun} {n : Nat} (h : run.covers n = true) : n ∈ run.sources := by
  simp only [covers, Bool.and_eq_true, decide_eq_true_eq, beq_iff_eq] at h
  obtain ⟨⟨hfirst, hlast⟩, hstep⟩ := h
  have hdiv := Nat.div_add_mod (n - run.first) run.step
  refine List.mem_map.mpr ⟨(n - run.first) / run.step, List.mem_range.mpr ?_, by omega⟩
  exact Nat.lt_succ_of_le (Nat.div_le_div_right (by omega))

theorem le_of_covers {run : CaseRun} {n : Nat} (h : run.covers n = true) : run.first ≤ n ∧ n ≤ run.last := by
  simp only [covers, Bool.and_eq_true, decide_eq_true_eq] at h
  exact h.1

end CaseRun

/-! ## Letters -/

/-- Runs of code points that hold every letter with case, and no character that means something in a title. -/
def letterZones : List (Nat × Nat) :=
  [(0x41, 0x5A), (0x61, 0x7A), (0xAA, 0x167F), (0x1681, 0x1FFF), (0x2071, 0x2FFF), (0xA000, 0xD7FF),
   (0xE000, 0xFFFC), (0x10000, 0x10FFFF)]

/-- Whether the character lies in a zone of letters. -/
def isLetter (c : Char) : Bool := inRuns letterZones c

/-- A run from letters to letters: its code points lie in one zone, and those that it moves them to in one zone. -/
def CaseRun.inZones (run : CaseRun) : Bool :=
  letterZones.any (fun zone => zone.1 ≤ run.first && run.last ≤ zone.2) &&
    letterZones.any fun zone => (zone.1 : Int) ≤ run.first + run.shift && run.last + run.shift ≤ (zone.2 : Int)

theorem toNat_charOfNat {n : Nat} (h : n.isValidChar) : (Char.ofNat n).toNat = n := by
  rw [Char.ofNat, dif_pos h]
  rfl

theorem isLetter_of_mem_zone {c : Char} {zone : Nat × Nat} (hzone : zone ∈ letterZones) (hfirst : zone.1 ≤ c.toNat)
    (hlast : c.toNat ≤ zone.2) : isLetter c = true := by
  simp only [isLetter, inRuns, List.any_eq_true, Bool.and_eq_true, decide_eq_true_eq]
  exact ⟨zone, hzone, hfirst, hlast⟩

theorem isValidChar_of_mem_zone {n : Nat} {zone : Nat × Nat} (hzone : zone ∈ letterZones) (hfirst : zone.1 ≤ n)
    (hlast : n ≤ zone.2) : n.isValidChar := by
  simp only [letterZones, List.mem_cons, List.not_mem_nil, or_false] at hzone
  unfold Nat.isValidChar
  rcases hzone with rfl | rfl | rfl | rfl | rfl | rfl | rfl | rfl <;> simp only at hfirst hlast <;> omega

/-- The runs go from letters to letters, and an upper case of several characters belongs to a letter and consists of
letters. -/
theorem caseTables_letters : lowerRuns.all CaseRun.inZones = true ∧ upperRuns.all CaseRun.inZones = true ∧
    (upperExpansions.all fun entry =>
      isLetter (Char.ofNat entry.1) && 2 ≤ entry.2.length && entry.2.all isLetter) = true := by
  decide +kernel

/-- A character is left as it is, or it is a letter that is moved to another letter. -/
theorem moveCase_cases {runs : List CaseRun} (hruns : runs.all CaseRun.inZones = true) (c : Char) :
    moveCase runs c = c ∨
      ∃ run ∈ runs, c.toNat ∈ run.sources ∧ (moveCase runs c).toNat ∈ run.targets ∧ isLetter c = true ∧
        isLetter (moveCase runs c) = true := by
  unfold moveCase
  cases hfind : runs.find? (·.covers c.toNat) with
  | none => exact Or.inl rfl
  | some run =>
    right
    have hmem := List.mem_of_find?_eq_some hfind
    have hcovers : run.covers c.toNat = true := by simpa using List.find?_some hfind
    obtain ⟨hfirst, hlast⟩ := CaseRun.le_of_covers hcovers
    have hzones := List.all_eq_true.mp hruns run hmem
    simp only [CaseRun.inZones, Bool.and_eq_true, List.any_eq_true, decide_eq_true_eq] at hzones
    obtain ⟨⟨zone, hzone, hzone1, hzone2⟩, other, hother, hother1, hother2⟩ := hzones
    have hvalid : (c.toNat + run.shift).toNat.isValidChar :=
      isValidChar_of_mem_zone hother (by omega) (by omega)
    have hcode : (Char.ofNat (c.toNat + run.shift).toNat).toNat = (c.toNat + run.shift).toNat :=
      toNat_charOfNat hvalid
    have hsource := CaseRun.mem_sources_of_covers hcovers
    dsimp only
    refine ⟨run, hmem, hsource, ?_, isLetter_of_mem_zone hzone (by omega) (by omega),
      isLetter_of_mem_zone hother (by omega) (by omega)⟩
    rw [hcode]
    exact List.mem_map.mpr ⟨c.toNat, hsource, rfl⟩

theorem moveCase_eq_self {runs : List CaseRun} {c : Char} (h : c.toNat ∉ runs.flatMap CaseRun.sources) :
    moveCase runs c = c := by
  have hfind : runs.find? (·.covers c.toNat) = none := by
    rw [List.find?_eq_none]
    intro run hrun hcovers
    exact h (List.mem_flatMap.mpr ⟨run, hrun, CaseRun.mem_sources_of_covers hcovers⟩)
  simp [moveCase, hfind]

/-! ## Letters that have another case -/

/-- The code points of the characters that have another upper case. -/
def upperSources : List Nat := upperExpansions.map (·.1) ++ upperRuns.flatMap CaseRun.sources

/-- The code points of the characters that such an upper case begins with. -/
def upperTargets : List Nat :=
  upperExpansions.filterMap (fun entry => entry.2.head?.map Char.toNat) ++ upperRuns.flatMap CaseRun.targets

/-- The code points of the characters that have another lower case. -/
def lowerSources : List Nat := 'İ'.toNat :: 'Σ'.toNat :: lowerRuns.flatMap CaseRun.sources

/-- The code points of the characters in such a lower case. -/
def lowerTargets : List Nat := ['i', '\u0307', 'σ', 'ς'].map Char.toNat ++ lowerRuns.flatMap CaseRun.targets

/-- What is in upper or lower case has no other upper or lower case. -/
theorem targets_disjoint :
    bits upperTargets &&& bits upperSources = 0 ∧ bits lowerTargets &&& bits lowerSources = 0 := by
  decide +kernel

/-! ## Upper case -/

theorem upperChar_eq_self {c : Char} (h : c.toNat ∉ upperSources) : upperChar c = [c] := by
  obtain ⟨hexpansion, hruns⟩ := not_or.mp (mt List.mem_append.mpr h)
  have hlookup : upperExpansions.lookup c.toNat = none := by
    rw [List.lookup_eq_none_iff]
    intro entry hentry
    rw [bne_iff_ne]
    rintro heq
    exact hexpansion (List.mem_map.mpr ⟨entry, hentry, heq.symm⟩)
  simp [upperChar, hlookup, moveCase_eq_self hruns]

/-- The upper case of a character is the character, several letters, or one letter. -/
theorem upperChar_cases (c : Char) :
    upperChar c = [c] ∨
      isLetter c = true ∧ (∀ d ∈ upperChar c, isLetter d = true) ∧
        ((2 ≤ (upperChar c).length ∧ (c.toNat, upperChar c) ∈ upperExpansions) ∨
          ∃ run ∈ upperRuns, ∃ u, upperChar c = [u] ∧ c.toNat ∈ run.sources ∧ u.toNat ∈ run.targets) := by
  unfold upperChar
  cases hlookup : upperExpansions.lookup c.toNat with
  | some expansion =>
    right
    obtain ⟨before, behind, hsplit, -⟩ := List.lookup_eq_some_iff.mp hlookup
    have hmem : (c.toNat, expansion) ∈ upperExpansions := by simp [hsplit]
    have hletters := List.all_eq_true.mp caseTables_letters.2.2 _ hmem
    simp only [Char.ofNat_toNat, Bool.and_eq_true, decide_eq_true_eq] at hletters
    obtain ⟨⟨hc, hlength⟩, hall⟩ := hletters
    exact ⟨hc, List.all_eq_true.mp hall, Or.inl ⟨hlength, hmem⟩⟩
  | none =>
    obtain hsame | ⟨run, hrun, hsource, htarget, hc, hd⟩ := moveCase_cases caseTables_letters.2.1 c
    · exact Or.inl (by rw [hsame])
    · exact Or.inr ⟨hc, by simpa using hd, Or.inr ⟨run, hrun, _, rfl, hsource, htarget⟩⟩

/-- What an upper case begins with has no other upper case. -/
theorem upperChar_head {c u : Char} {us : Text} (h : upperChar c = u :: us) : upperChar u = [u] := by
  obtain hsame | ⟨-, -, ⟨-, hmem⟩ | ⟨run, hrun, v, hv, -, htarget⟩⟩ := upperChar_cases c
  · obtain ⟨rfl, rfl⟩ := List.cons.inj (h.symm.trans hsame)
    exact hsame
  · apply upperChar_eq_self
    apply notMem_of_land_eq_zero targets_disjoint.1
    exact List.mem_append_left _ (List.mem_filterMap.mpr ⟨_, hmem, by simp [h]⟩)
  · obtain ⟨rfl, -⟩ := List.cons.inj (h.symm.trans hv)
    apply upperChar_eq_self
    apply notMem_of_land_eq_zero targets_disjoint.1
    exact List.mem_append_right _ (List.mem_flatMap.mpr ⟨run, hrun, htarget⟩)

theorem upperChar_ne_nil (c : Char) : upperChar c ≠ [] := by
  obtain hsame | ⟨-, -, ⟨hlength, -⟩ | ⟨-, -, u, hu, -⟩⟩ := upperChar_cases c
  · simp [hsame]
  · intro hnil
    simp [hnil] at hlength
  · simp [hu]

@[simp] theorem Text.capitalize_capitalize (s : Text) : capitalize (capitalize s) = capitalize s := by
  cases s with
  | nil => rfl
  | cons c rest =>
    obtain ⟨u, us, hu⟩ := List.exists_cons_of_ne_nil (upperChar_ne_nil c)
    simp [capitalize, hu, upperChar_head hu]

/-! ## Lower case -/

/-- Whether the character is its own lower case wherever it stands. -/
def isLowered (c : Char) : Prop := lowerChar c = [c] ∧ c ≠ 'Σ'

theorem isLowered_of_notMem {c : Char} (h : c.toNat ∉ lowerSources) : isLowered c := by
  simp only [lowerSources, List.mem_cons, not_or] at h
  obtain ⟨hi, hsigma, hruns⟩ := h
  refine ⟨?_, fun heq => hsigma (by rw [heq])⟩
  rw [lowerChar, if_neg (fun heq => hi (by rw [heq])), moveCase_eq_self hruns]

/-- The lower case of a character is the character, or letters for a letter. -/
theorem lowerChar_cases (c : Char) :
    lowerChar c = [c] ∨ isLetter c = true ∧ lowerChar c ≠ [] ∧ ∀ d ∈ lowerChar c, isLetter d = true := by
  unfold lowerChar
  split
  · rename_i heq
    subst heq
    exact Or.inr ⟨by decide, by simp, List.all_eq_true.mp (by decide)⟩
  · obtain hsame | ⟨-, -, -, -, hc, hd⟩ := moveCase_cases caseTables_letters.1 c
    · exact Or.inl (by rw [hsame])
    · exact Or.inr ⟨hc, by simp, by simpa using hd⟩

theorem isLowered_of_mem_lowerChar {c d : Char} (hc : c ≠ 'Σ') (hd : d ∈ lowerChar c) : isLowered d := by
  by_cases hi : c = 'İ'
  · subst hi
    have hconst : d.toNat ∈ ['i', '\u0307', 'σ', 'ς'].map Char.toNat := by
      obtain rfl | rfl : d = 'i' ∨ d = '\u0307' := by simpa [lowerChar] using hd
      · decide
      · decide
    exact isLowered_of_notMem (notMem_of_land_eq_zero targets_disjoint.2 (List.mem_append_left _ hconst))
  · obtain rfl : d = moveCase lowerRuns c := by simpa [lowerChar, hi] using hd
    obtain hsame | ⟨run, hrun, -, htarget, -, -⟩ := moveCase_cases caseTables_letters.1 c
    · rw [hsame]
      exact ⟨by simp [lowerChar, hi, hsame], hc⟩
    · exact isLowered_of_notMem (notMem_of_land_eq_zero targets_disjoint.2
        (List.mem_append_right _ (List.mem_flatMap.mpr ⟨run, hrun, htarget⟩)))

namespace Text

theorem isLowered_of_mem_lowerBehind {before s : Text} {d : Char} (hd : d ∈ lowerBehind before s) : isLowered d := by
  induction s generalizing before with
  | nil => simp [lowerBehind] at hd
  | cons c s ih =>
    rw [lowerBehind] at hd
    obtain hhead | hrest := List.mem_append.mp hd
    · split at hhead
      · have hconst : d.toNat ∈ ['i', '\u0307', 'σ', 'ς'].map Char.toNat := by
          obtain rfl := List.mem_singleton.mp hhead
          split <;> decide
        exact isLowered_of_notMem (notMem_of_land_eq_zero targets_disjoint.2 (List.mem_append_left _ hconst))
      · rename_i hc
        exact isLowered_of_mem_lowerChar hc hhead
    · exact ih hrest

theorem lowerBehind_eq_self {s : Text} (before : Text) (h : ∀ c ∈ s, isLowered c) : lowerBehind before s = s := by
  induction s generalizing before with
  | nil => rfl
  | cons c s ih =>
    obtain ⟨hchar, hsigma⟩ := h c List.mem_cons_self
    rw [lowerBehind, if_neg hsigma, hchar, ih _ fun d hd => h d (List.mem_cons_of_mem _ hd)]
    rfl

@[simp] theorem lower_lower (s : Text) : lower (lower s) = lower s :=
  lowerBehind_eq_self [] fun _ hd => isLowered_of_mem_lowerBehind hd

/-! ## The lower case of a letter in upper case -/

/-- Only `İ` has a lower case of two characters. -/
theorem length_lowerBehind (before s : Text) : (lowerBehind before s).length = s.length + s.count 'İ' := by
  induction s generalizing before with
  | nil => rfl
  | cons c s ih =>
    rw [lowerBehind, List.length_append, ih, List.length_cons, List.count_cons]
    by_cases hi : c = 'İ'
    · subst hi
      simp [lowerChar]
      omega
    · have hone : ∀ d, (if c = 'Σ' then [d] else lowerChar c).length = 1 := by
        intro d
        split <;> simp [lowerChar, hi]
      rw [hone]
      simp [hi]
      omega

/-- A text begins with the lower case of its first character alone. -/
theorem lower_cons (c : Char) (s : Text) : lower (c :: s) = lower [c] ++ lowerBehind [c] s := by
  have hstart : startsCased [] = false := rfl
  simp [lower, lowerBehind, hstart]

theorem startsCased_cons (c : Char) (s : Text) :
    startsCased (c :: s) = if inRuns caseIgnorableRuns c then startsCased s else inRuns casedRuns c := by
  unfold startsCased
  cases h : inRuns caseIgnorableRuns c <;> simp [h]

end Text

/-- The code points of the letters that are exchanged for one letter in upper case, and of those in upper case; only
the iota that is written below other letters is left out. -/
def casedSources : List Nat :=
  (upperRuns.filter fun run => run.first ≠ 0x345).flatMap fun run => run.sources ++ run.targets

/-- They have case and are not ignored, and the iota has a run of its own. -/
theorem casedSources_cased : bits casedSources &&& bits (codesOf casedRuns) = bits casedSources ∧
    bits casedSources &&& bits (codesOf caseIgnorableRuns) = 0 ∧
    (upperRuns.all fun run => run.first ≠ 0x345 || run.sources = [0x345]) = true := by
  decide +kernel

namespace Text

/-- Behind a letter with case it does not matter which one it is. -/
theorem lowerBehind_congr {c u : Char} (hc : c.toNat ∈ casedSources) (hu : u.toNat ∈ casedSources) (before s : Text) :
    lowerBehind (before ++ [c]) s = lowerBehind (before ++ [u]) s := by
  have hcased : ∀ d : Char, d.toNat ∈ casedSources → startsCased [d] = true := by
    intro d hd
    rw [startsCased_cons, inRuns_eq, inRuns_eq, decide_eq_false (notMem_of_land_eq_zero casedSources_cased.2.1 hd),
      decide_eq_true (mem_of_land_eq casedSources_cased.1 hd)]
    rfl
  have hstart : ∀ b : Text, startsCased (b ++ [c]) = startsCased (b ++ [u]) := by
    intro b
    induction b with
    | nil => rw [List.nil_append, List.nil_append, hcased c hc, hcased u hu]
    | cons d b ih => rw [List.cons_append, List.cons_append, startsCased_cons, startsCased_cons, ih]
  induction s generalizing before with
  | nil => rfl
  | cons d s ih => rw [lowerBehind, lowerBehind, hstart, ← List.cons_append, ← List.cons_append, ih]

/-- A first letter that has the lower case of its upper case can be exchanged for it. -/
theorem lower_upperChar_append {c : Char} (h : lower (upperChar c) = lower [c]) (s : Text) :
    lower (upperChar c ++ s) = lower (c :: s) := by
  obtain hsame | ⟨-, -, ⟨hlength, hmem⟩ | ⟨run, hrun, u, hu, hsource, htarget⟩⟩ := upperChar_cases c
  · rw [hsame, List.singleton_append]
  · have hi : c ≠ 'İ' := by
      rintro rfl
      revert hlength
      decide
    have hcount := congrArg List.length h
    rw [lower, lower, length_lowerBehind, length_lowerBehind] at hcount
    simp [hi] at hcount
    omega
  · have hiota : run.first ≠ 0x345 := by
      intro hfirst
      have halone := List.all_eq_true.mp casedSources_cased.2.2 run hrun
      have hcode : c.toNat = 0x345 := by simpa [show run.sources = [0x345] by simpa [hfirst] using halone] using hsource
      obtain rfl : c = '\u0345' := Char.toNat_inj.mp hcode
      revert h
      decide
    have hrun' : run ∈ upperRuns.filter fun run => run.first ≠ 0x345 := by
      simp [hrun, hiota]
    have hc : c.toNat ∈ casedSources := List.mem_flatMap.mpr ⟨run, hrun', List.mem_append_left _ hsource⟩
    have hu' : u.toNat ∈ casedSources := List.mem_flatMap.mpr ⟨run, hrun', List.mem_append_right _ htarget⟩
    rw [hu] at h ⊢
    rw [List.singleton_append, lower_cons u, lower_cons c, h]
    exact congrArg _ (lowerBehind_congr hu' hc [] s)

/-- If the lower case of a text stays as it is with the first letter in upper case, then so does that of the letter. -/
theorem lower_upperChar_of_append {c : Char} {s : Text} (h : lower (upperChar c ++ s) = lower (c :: s)) :
    lower (upperChar c) = lower [c] := by
  have hcount := congrArg List.length h
  rw [lower, lower, length_lowerBehind, length_lowerBehind] at hcount
  obtain hsame | ⟨-, -, ⟨hlength, hmem⟩ | ⟨-, -, u, hu, -, -⟩⟩ := upperChar_cases c
  · rw [hsame]
  · have hi : c ≠ 'İ' := by
      rintro rfl
      revert hlength
      decide
    simp [hi] at hcount
    omega
  · rw [hu] at h hcount ⊢
    have hlength : (lower [u]).length = (lower [c]).length := by
      rw [lower, lower, length_lowerBehind, length_lowerBehind]
      simp only [List.singleton_append, List.count_cons, List.length_cons] at hcount ⊢
      simp only [List.count_nil, List.length_nil]
      omega
    rw [List.singleton_append, lower_cons u, lower_cons c] at h
    exact (List.append_inj h hlength).1

end Text

end PageMarkup
