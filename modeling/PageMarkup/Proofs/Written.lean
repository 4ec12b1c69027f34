import PageMarkup.Function.Conversion
import PageMarkup.Link.Conversion
import PageMarkup.Proofs.Outcome
import PageMarkup.Title.Check

/-!
# Values that can be written out

Messages name the values that they are about. An integer is written out if it has at most `Text.maxNumeralDigits` digits,
and a title if the namespace that it was given is one by which a name can be looked up; other values are written out if
their parts are (`Datum.exists_shown_iff`). Whatever a title is read from can be written out, and so can a hook that is
known.
-/
namespace PageMarkup

namespace Datum

variable {α : Type} [Leaf α]

/-- Numbers below a power of ten, which the limit on digits is about. -/
theorem length_toDigits_le_iff {n limit : Nat} (h : 0 < limit) :
    (Nat.toDigits 10 n).length ≤ limit ↔ n < Nat.pow 10 limit :=
  Nat.length_toDigits_le_iff (by decide) h

theorem shownInt_eq_ok_iff {n : Int} :
    (∃ s, shownInt n = .ok s) ↔ n.natAbs < Nat.pow 10 Text.maxNumeralDigits := by
  rw [← length_toDigits_le_iff (by decide)]
  unfold shownInt
  split
  · rename_i hmany
    exact ⟨fun ⟨_, hshown⟩ => by simp at hshown, fun hfew => absurd hfew (Nat.not_le.mpr hmany)⟩
  · rename_i hfew
    exact ⟨fun _ => Nat.not_lt.mp hfew, fun _ => ⟨_, rfl⟩⟩

theorem shownInt_eq_error {n : Int} (h : Nat.pow 10 Text.maxNumeralDigits ≤ n.natAbs) : shownInt n = .error .tooManyDigits := by
  refine if_pos (Nat.not_le.mp fun hle => ?_)
  exact Nat.not_lt.mpr h ((length_toDigits_le_iff (by decide)).mp hle)

mutual

/-- Whether all parts of the datum can be written out: integers by the number of their digits, and leaves in their own
way. -/
def IsWritable : Datum α → Prop
  | int n => n.natAbs < Nat.pow 10 Text.maxNumeralDigits
  | list items => AllWritable items
  | tuple items => AllWritable items
  | record fields => FieldsWritable fields
  | leaf a => ∃ s, Leaf.shown a = .ok s
  | null | bool _ | real .. | text _ => True

def AllWritable : List (Datum α) → Prop
  | [] => True
  | d :: rest => IsWritable d ∧ AllWritable rest

def FieldsWritable : List (Text × Datum α) → Prop
  | [] => True
  | (_, d) :: rest => IsWritable d ∧ FieldsWritable rest

end

mutual

/-- A datum can be written out if and only if all parts of it can. -/
theorem exists_shown_iff (d : Datum α) : (∃ s, d.shown = .ok s) ↔ d.IsWritable := by
  cases d with
  | int n => exact shownInt_eq_ok_iff
  | leaf a => exact Iff.rfl
  | list items =>
    rw [IsWritable, ← exists_shownItems_iff, shown]
    exact Outcome.exists_bind_pure_eq_ok_iff
  | tuple items =>
    rw [IsWritable, ← exists_shownItems_iff, shown]
    exact Outcome.exists_bind_pure_eq_ok_iff
  | record fields =>
    rw [IsWritable, ← exists_shownFields_iff, shown]
    exact Outcome.exists_bind_pure_eq_ok_iff
  | null | bool _ | real _ _ _ | text _ => exact ⟨fun _ => trivial, fun _ => ⟨_, rfl⟩⟩

theorem exists_shownItems_iff (items : List (Datum α)) : (∃ parts, shownItems items = .ok parts) ↔ AllWritable items := by
  cases items with
  | nil => exact ⟨fun _ => trivial, fun _ => ⟨_, rfl⟩⟩
  | cons d rest =>
    rw [AllWritable, ← exists_shown_iff, ← exists_shownItems_iff, shownItems]
    simp only [Outcome.bind_eq_ok]
    exact ⟨fun ⟨_, s, hs, parts, hparts, _⟩ => ⟨⟨s, hs⟩, parts, hparts⟩,
      fun ⟨⟨s, hs⟩, parts, hparts⟩ => ⟨_, s, hs, parts, hparts, rfl⟩⟩

theorem exists_shownFields_iff (fields : List (Text × Datum α)) :
    (∃ parts, shownFields fields = .ok parts) ↔ FieldsWritable fields := by
  cases fields with
  | nil => exact ⟨fun _ => trivial, fun _ => ⟨_, rfl⟩⟩
  | cons field rest =>
    obtain ⟨key, d⟩ := field
    rw [FieldsWritable, ← exists_shown_iff, ← exists_shownFields_iff, shownFields]
    simp only [Outcome.bind_eq_ok]
    exact ⟨fun ⟨_, s, hs, parts, hparts, _⟩ => ⟨⟨s, hs⟩, parts, hparts⟩,
      fun ⟨⟨s, hs⟩, parts, hparts⟩ => ⟨_, s, hs, parts, hparts, rfl⟩⟩

end

end Datum

/-! ## What is read -/

namespace Value

variable {v : Value} {s : Text}

theorem exists_shown_of_titleText (h : v.titleText.text? = some s) : ∃ t, v.shown = .ok t := by
  cases v with
  | text s => exact ⟨_, rfl⟩
  | leaf a =>
    cases a with
    | title t => exact ⟨_, rfl⟩
    | _ => simp [titleText, Datum.text?] at h
  | _ => simp [titleText, Datum.text?] at h

theorem exists_shown_of_fullTitleText (h : v.fullTitleText.text? = some s) : ∃ t, v.shown = .ok t := by
  cases v with
  | text s => exact ⟨_, rfl⟩
  | leaf a =>
    cases a with
    | title t => exact ⟨_, rfl⟩
    | _ => simp [fullTitleText, Datum.text?] at h
  | _ => simp [fullTitleText, Datum.text?] at h

theorem text?_of_unwritable {why : Unwritable} (h : v.shown = .error why) : v.text? = none := by
  cases v with
  | text s => simp [Datum.shown] at h
  | _ => rfl

theorem text?_titleText_of_unwritable {why : Unwritable} (h : v.shown = .error why) : v.titleText.text? = none := by
  refine Option.eq_none_iff_forall_ne_some.mpr fun s hs => ?_
  obtain ⟨t, ht⟩ := exists_shown_of_titleText hs
  simp [h] at ht

end Value

namespace Title

variable {site : Option Site} {v : Value} {t : Title}

theorem exists_shown_of_linked (h : linked site v = .ok t) : ∃ s, v.shown = .ok s := by
  unfold linked at h
  split at h
  · exact ⟨_, rfl⟩
  · exact ⟨_, rfl⟩
  · simp at h

theorem exists_shown_of_transcluded (h : transcluded site v = .ok t) : ∃ s, v.shown = .ok s := by
  cases v with
  | text s => exact ⟨_, rfl⟩
  | leaf a =>
    cases a with
    | title t => exact ⟨_, rfl⟩
    | _ => simp [transcluded, bind, Except.bind] at h
  | _ => simp [transcluded, bind, Except.bind] at h

end Title

end PageMarkup
