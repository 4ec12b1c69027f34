import Mathlib.Data.List.Basic
import Mathlib.Order.Bounds.Basic
import PageMarkup.Function.Basic

/-!
# Characters one after the other

Where comments interrupt a hook, its characters are looked for in the raw title one after the other, each behind the one
before. The search takes the first place that will do and never comes back to it. That is no loss: whatever places the
characters of a text could have, one of them that stands earlier leaves more text for those behind it. So the search ends
as early as any choice of places does, and finds an end whenever there is one (`subsequenceEnd?_earliest`).
-/
namespace PageMarkup

/-- The first of the characters is dropped as soon as it occurs. -/
theorem cons_sublist_cons_iff {c d : Char} {chars text : Text} :
    (c :: chars).Sublist (d :: text) ↔ (if d = c then chars else c :: chars).Sublist text := by
  split
  · rename_i heq
    rw [heq, List.cons_sublist_cons]
  · rename_i hne
    exact ⟨fun h => h.of_cons_of_ne (Ne.symm hne), fun h => h.cons _⟩

/-- The end that is found is the least one before which all characters occur, in their order. -/
theorem subsequenceEnd?_eq_some_iff {chars text : Text} {stop : Nat} :
    subsequenceEnd? chars text = some stop ↔
      stop ≤ text.length ∧ chars.Sublist (text.take stop) ∧ ∀ n < stop, ¬ chars.Sublist (text.take n) := by
  induction text generalizing chars stop with
  | nil =>
    cases chars with
    | nil =>
      simp only [subsequenceEnd?, Option.some.injEq, List.length_nil, List.take_nil, List.Sublist.refl, not_true]
      constructor
      · rintro rfl
        simp
      · rintro ⟨hle, -⟩
        omega
    | cons c chars => simp [subsequenceEnd?]
  | cons d text ih =>
    cases chars with
    | nil =>
      simp only [subsequenceEnd?, Option.some.injEq]
      constructor
      · rintro rfl
        simp
      · rintro ⟨-, -, hfirst⟩
        by_contra hne
        exact hfirst 0 (by omega) (List.nil_sublist _)
    | cons c chars =>
      rw [subsequenceEnd?, Option.map_eq_some_iff]
      constructor
      · rintro ⟨n, hn, rfl⟩
        obtain ⟨hle, hsub, hfirst⟩ := ih.mp hn
        refine ⟨Nat.succ_le_succ hle, ?_, fun m hm => ?_⟩
        · rw [List.take_succ_cons]
          exact cons_sublist_cons_iff.mpr hsub
        · cases m with
          | zero => simp
          | succ m =>
            rw [List.take_succ_cons, cons_sublist_cons_iff]
            exact hfirst m (by omega)
      · rintro ⟨hle, hsub, hfirst⟩
        cases stop with
        | zero => simp at hsub
        | succ stop =>
          refine ⟨stop, ih.mpr ⟨Nat.le_of_succ_le_succ hle, ?_, fun m hm => ?_⟩, rfl⟩
          · rw [List.take_succ_cons] at hsub
            exact cons_sublist_cons_iff.mp hsub
          · have hnone := hfirst (m + 1) (by omega)
            rwa [List.take_succ_cons, cons_sublist_cons_iff] at hnone

theorem subsequenceEnd?_le {chars text : Text} {stop : Nat} (h : subsequenceEnd? chars text = some stop) :
    stop ≤ text.length :=
  (subsequenceEnd?_eq_some_iff.mp h).1

/-- The last of the characters stands right before the end, and they do not all occur before it. -/
theorem exists_of_subsequenceEnd?_append {run text : Text} {c : Char} {stop : Nat}
    (h : subsequenceEnd? (run ++ [c]) text = some stop) :
    ∃ front, text.take stop = front ++ [c] ∧ ¬ (run ++ [c]).Sublist front := by
  obtain ⟨hle, hsub, hfirst⟩ := subsequenceEnd?_eq_some_iff.mp h
  cases stop with
  | zero => simp at hsub
  | succ n =>
    have hn : n < text.length := hle
    have hnone := hfirst n (Nat.lt_succ_self n)
    rw [List.take_succ_eq_append_getElem hn] at hsub ⊢
    obtain ⟨before, last, hsplit, hbefore, hlast⟩ := List.sublist_append_iff.mp hsub
    obtain rfl | rfl := List.sublist_singleton.mp hlast
    · rw [List.append_nil] at hsplit
      exact absurd (hsplit ▸ hbefore) hnone
    · obtain ⟨-, hc⟩ := List.append_inj' hsplit rfl
      obtain rfl := (List.cons.inj hc).1
      exact ⟨_, rfl, hnone⟩

/-- A sublist of a text is found in it. -/
theorem subsequenceEnd?_isSome {chars text : Text} (h : chars.Sublist text) :
    (subsequenceEnd? chars text).isSome := by
  induction text generalizing chars with
  | nil => simp [List.sublist_nil.mp h, subsequenceEnd?]
  | cons d text ih =>
    cases chars with
    | nil => simp [subsequenceEnd?]
    | cons c chars => simpa [subsequenceEnd?] using ih (cons_sublist_cons_iff.mp h)

theorem subsequenceEnd?_eq_none_iff {chars text : Text} : subsequenceEnd? chars text = none ↔ ¬ chars.Sublist text := by
  rw [← Option.not_isSome_iff_eq_none, not_iff_not]
  refine ⟨fun hfound => ?_, subsequenceEnd?_isSome⟩
  obtain ⟨stop, hstop⟩ := Option.isSome_iff_exists.mp hfound
  obtain ⟨-, hsub, -⟩ := subsequenceEnd?_eq_some_iff.mp hstop
  exact hsub.trans (List.take_sublist _ _)

/-- The search ends with the least length of a beginning of the text in which all characters occur in their order, and
without an end if and only if they do not so occur in the text. -/
theorem subsequenceEnd?_earliest (chars text : Text) :
    (∀ stop, subsequenceEnd? chars text = some stop ↔ IsLeast {n | chars.Sublist (text.take n)} stop) ∧
      (subsequenceEnd? chars text = none ↔ ¬ chars.Sublist text) := by
  refine ⟨fun stop => ?_, subsequenceEnd?_eq_none_iff⟩
  rw [subsequenceEnd?_eq_some_iff]
  constructor
  · rintro ⟨-, hsub, hfirst⟩
    exact ⟨hsub, fun n hn => not_lt.mp fun hlt => hfirst n hlt hn⟩
  · rintro ⟨hsub, hleast⟩
    have hfirst : ∀ n < stop, ¬ chars.Sublist (text.take n) := fun n hlt hn => not_lt.mpr (hleast hn) hlt
    -- A beginning that is to be longer than the text is the text, so the least length is not beyond it.
    refine ⟨not_lt.mp fun hlt => hfirst text.length hlt ?_, hsub, hfirst⟩
    rw [List.take_length]
    exact hsub.trans (List.take_sublist _ _)

/-- The first letter is taken from the comment, which makes no difference to the end. The order of the characters does. -/
example : subsequenceEnd? "if:".toList "<!--i:-->if:x".toList = some 12 ∧
    subsequenceEnd? "fi".toList "if".toList = none := by decide

end PageMarkup
