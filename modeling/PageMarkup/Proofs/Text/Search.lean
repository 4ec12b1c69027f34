import Mathlib.Data.List.Basic
import Mathlib.Data.List.Infix
import PageMarkup.Text.Basic

/-!
# Finding, replacing, joining and slicing

A text is found where it stands first. There it is the middle of three pieces, and a replacement exchanges that piece
alone. A single character is easier: its first occurrence is known as soon as it does not stand before it. Joining puts
the separator in front of every text but the first.
-/
namespace PageMarkup.Text

theorem startsWith_iff (lead s : Text) : startsWith lead s = true ↔ lead <+: s :=
  List.isPrefixOf_iff_prefix

theorem endsWith_iff (tail s : Text) : endsWith tail s = true ↔ tail <:+ s :=
  List.isSuffixOf_iff_suffix

/-- A text is found where it stands first. -/
theorem find?_eq_some_iff {part s : Text} {i : Nat} :
    find? part s = some i ↔ part <+: s.drop i ∧ ∀ j < i, ¬ part <+: s.drop j := by
  induction s generalizing i with
  | nil =>
    cases part with
    | nil =>
      simp only [find?, List.isEmpty_nil, if_true, Option.some.injEq, List.nil_prefix, true_and, not_true]
      exact ⟨fun h j hj => by omega, fun h => by_contra fun hi => h 0 (by omega)⟩
    | cons c rest => simp [find?]
  | cons c rest ih =>
    rw [find?]
    split
    · rename_i hlead
      rw [startsWith_iff] at hlead
      constructor
      · rintro h
        obtain rfl : 0 = i := by simpa using h
        exact ⟨hlead, fun j hj => by omega⟩
      · rintro ⟨-, hfirst⟩
        by_contra hi
        exact hfirst 0 (Nat.pos_of_ne_zero fun h => hi (by rw [h])) hlead
    · rename_i hlead
      rw [startsWith_iff] at hlead
      cases i with
      | zero => simp [hlead]
      | succ i =>
        rw [Option.map_eq_some_iff]
        constructor
        · rintro ⟨k, hk, hki⟩
          obtain rfl : k = i := by omega
          obtain ⟨hhere, hfirst⟩ := ih.mp hk
          refine ⟨hhere, fun j hj => ?_⟩
          cases j with
          | zero => exact hlead
          | succ j => exact hfirst j (by omega)
        · rintro ⟨hhere, hfirst⟩
          exact ⟨i, ih.mpr ⟨hhere, fun j hj => hfirst (j + 1) (by omega)⟩, rfl⟩

/-- What is found at an index stands between the characters before it and the rest. -/
theorem find?_eq_some {part s : Text} {i : Nat} (h : find? part s = some i) :
    s = s.take i ++ part ++ s.drop (i + part.length) := by
  obtain ⟨hhere, -⟩ := find?_eq_some_iff.mp h
  have hcut := List.prefix_iff_eq_append.mp hhere
  rw [List.drop_drop] at hcut
  rw [List.append_assoc, hcut, List.take_append_drop]

theorem includes_iff (part s : Text) : includes part s = true ↔ part <:+: s := by
  rw [includes, Option.isSome_iff_exists]
  constructor
  · rintro ⟨i, hi⟩
    exact ⟨s.take i, s.drop (i + part.length), (find?_eq_some hi).symm⟩
  · intro h
    induction s with
    | nil => exact ⟨0, by simp [find?, List.infix_nil.mp h]⟩
    | cons c rest ih =>
      rw [find?]
      split
      · exact ⟨0, rfl⟩
      · rename_i hlead
        obtain hhere | hrest := List.infix_cons_iff.mp h
        · exact absurd ((startsWith_iff _ _).mpr hhere) hlead
        · obtain ⟨i, hi⟩ := ih hrest
          exact ⟨i + 1, by simp [hi]⟩

theorem find?_eq_none_iff {part s : Text} : find? part s = none ↔ ∀ i, ¬ part <+: s.drop i := by
  constructor
  · intro hnone i hi
    have hfound := (includes_iff part s).mpr (hi.isInfix.trans (List.drop_suffix i s).isInfix)
    simp [includes, hnone] at hfound
  · intro h
    by_contra hfound
    obtain ⟨i, hi⟩ := Option.ne_none_iff_exists'.mp hfound
    exact h i (find?_eq_some_iff.mp hi).1

theorem replaceFirst_of_find? {part s : Text} {i : Nat} (by_ : Text) (h : find? part s = some i) :
    replaceFirst part by_ s = s.take i ++ by_ ++ s.drop (i + part.length) := by
  rw [replaceFirst, h]

/-- The middle of three pieces is exchanged if it is found there. -/
theorem replaceFirst_append {before part behind : Text} (by_ : Text)
    (h : find? part (before ++ part ++ behind) = some before.length) :
    replaceFirst part by_ (before ++ part ++ behind) = before ++ by_ ++ behind := by
  rw [replaceFirst_of_find? by_ h, ← List.length_append, List.drop_left, List.append_assoc before part behind,
    List.take_left]

/-- Replacing leaves a text as it is, or exchanges the middle of three pieces. -/
theorem replaceFirst_cases (part by_ s : Text) :
    replaceFirst part by_ s = s ∨
      ∃ before behind, s = before ++ part ++ behind ∧ replaceFirst part by_ s = before ++ by_ ++ behind := by
  unfold replaceFirst
  cases h : find? part s with
  | none => exact Or.inl rfl
  | some i => exact Or.inr ⟨s.take i, s.drop (i + part.length), find?_eq_some h, rfl⟩

theorem find?_singleton_eq_none {c : Char} {s : Text} (h : c ∉ s) : find? [c] s = none := by
  induction s with
  | nil => simp [find?]
  | cons d rest ih =>
    obtain ⟨hd, hrest⟩ := List.ne_and_not_mem_of_not_mem_cons h
    simp [find?, startsWith, hd, ih hrest]

theorem find?_singleton_append {c : Char} {before : Text} (behind : Text) (h : c ∉ before) :
    find? [c] (before ++ c :: behind) = some before.length := by
  induction before with
  | nil => simp [find?, startsWith]
  | cons d rest ih =>
    obtain ⟨hd, hrest⟩ := List.ne_and_not_mem_of_not_mem_cons h
    simp [find?, startsWith, hd, ih hrest]

/-- A character that does not occur is not replaced. -/
theorem replaceFirst_singleton_of_notMem {c : Char} {s : Text} (by_ : Text) (h : c ∉ s) :
    replaceFirst [c] by_ s = s := by
  simp [replaceFirst, find?_singleton_eq_none h]

/-- A character is replaced where it first occurs. -/
theorem replaceFirst_singleton_append {c : Char} {before : Text} (by_ behind : Text) (h : c ∉ before) :
    replaceFirst [c] by_ (before ++ c :: behind) = before ++ by_ ++ behind := by
  simp [replaceFirst, find?_singleton_append behind h]

theorem cutAtFirst_of_notMem {c : Char} {s : Text} (h : c ∉ s) : cutAtFirst c s = (s, none) := by
  induction s with
  | nil => rfl
  | cons d rest ih =>
    obtain ⟨hd, hrest⟩ := List.ne_and_not_mem_of_not_mem_cons h
    simp [cutAtFirst, Ne.symm hd, ih hrest]

theorem cutAtFirst_append_cons {c : Char} {before : Text} (behind : Text) (h : c ∉ before) :
    cutAtFirst c (before ++ c :: behind) = (before, some behind) := by
  induction before with
  | nil => simp [cutAtFirst]
  | cons d rest ih =>
    obtain ⟨hd, hrest⟩ := List.ne_and_not_mem_of_not_mem_cons h
    simp [cutAtFirst, Ne.symm hd, ih hrest]

/-- A text is cut in front of the first separator, if it has one. -/
theorem cutAtFirst_cases (c : Char) (s : Text) :
    c ∉ s ∧ cutAtFirst c s = (s, none) ∨
      ∃ before behind, c ∉ before ∧ s = before ++ c :: behind ∧ cutAtFirst c s = (before, some behind) := by
  by_cases h : c ∈ s
  · obtain ⟨before, behind, rfl, hbefore⟩ := List.eq_append_cons_of_mem h
    exact Or.inr ⟨before, behind, hbefore, rfl, cutAtFirst_append_cons behind hbefore⟩
  · exact Or.inl ⟨h, cutAtFirst_of_notMem h⟩

/-- The separator goes in front of every text but the first. -/
theorem joinWith_cons (sep s : Text) (rest : List Text) :
    joinWith sep (s :: rest) = s ++ rest.flatMap (sep ++ ·) := by
  induction rest generalizing s with
  | nil => simp [joinWith]
  | cons t rest ih => simp [joinWith, ih]

/-- The separator counts as often as there are texts behind the first one. -/
theorem length_joinWith (sep s : Text) (rest : List Text) :
    (joinWith sep (s :: rest)).length = s.length + rest.flatten.length + rest.length * sep.length := by
  rw [joinWith_cons]
  induction rest with
  | nil => simp
  | cons t rest ih =>
    simp only [List.flatMap_cons, List.flatten_cons, List.length_append, List.length_cons, Nat.succ_mul] at ih ⊢
    omega

theorem splitOn_cons_self (sep : Char) (s : Text) : splitOn sep (sep :: s) = [] :: splitOn sep s := by
  simp [splitOn, pieces]

theorem splitOn_cons_of_ne {sep c : Char} {s piece : Text} {others : List Text} (hc : c ≠ sep)
    (h : splitOn sep s = piece :: others) : splitOn sep (c :: s) = (c :: piece) :: others := by
  rw [splitOn] at h ⊢
  simp [pieces, hc, h]

/-- Cut at its separators, a text gives back the pieces that were put behind them. -/
theorem splitOn_append_flatMap {sep : Char} {lead : Text} {ps : List Text} (hlead : sep ∉ lead)
    (hps : ∀ p ∈ ps, sep ∉ p) : splitOn sep (lead ++ ps.flatMap (sep :: ·)) = lead :: ps := by
  induction ps generalizing lead with
  | nil =>
    induction lead with
    | nil => rfl
    | cons c rest ih =>
      obtain ⟨hc, hrest⟩ := List.ne_and_not_mem_of_not_mem_cons hlead
      exact splitOn_cons_of_ne (Ne.symm hc) (ih hrest)
  | cons p ps ih =>
    have htail : splitOn sep (p ++ ps.flatMap (sep :: ·)) = p :: ps :=
      ih (hps p List.mem_cons_self) fun q hq => hps q (List.mem_cons_of_mem p hq)
    induction lead with
    | nil =>
      rw [List.nil_append, List.flatMap_cons, List.cons_append, splitOn_cons_self, htail]
    | cons c rest ihlead =>
      obtain ⟨hc, hrest⟩ := List.ne_and_not_mem_of_not_mem_cons hlead
      exact splitOn_cons_of_ne (Ne.symm hc) (ihlead hrest)

/-! ## Slices -/

/-- The characters of a slice are characters of the text. -/
theorem slice_subset (start stop : Nat) (s : Text) : Text.slice start stop s ⊆ s :=
  List.Subset.trans (List.drop_subset _ _) (List.take_subset _ _)

theorem take_append_slice {lo hi : Nat} (h : lo ≤ hi) (s : Text) : s.take lo ++ slice lo hi s = s.take hi := by
  have htake : (s.take hi).take lo = s.take lo := by rw [List.take_take, Nat.min_eq_left h]
  rw [slice, ← htake, List.take_append_drop]

/-- Texts that agree up to an index agree up to every smaller one. -/
theorem take_congr {s t : Text} {mid hi : Nat} (h : s.take hi = t.take hi) (hmid : mid ≤ hi) :
    s.take mid = t.take mid := by
  calc s.take mid = (s.take hi).take mid := by rw [List.take_take, Nat.min_eq_left hmid]
    _ = (t.take hi).take mid := by rw [h]
    _ = t.take mid := by rw [List.take_take, Nat.min_eq_left hmid]

theorem slice_congr {s t : Text} {mid hi : Nat} (lo : Nat) (h : s.take hi = t.take hi) (hmid : mid ≤ hi) :
    slice lo mid s = slice lo mid t := by
  rw [slice, slice, take_congr h hmid]

end PageMarkup.Text
