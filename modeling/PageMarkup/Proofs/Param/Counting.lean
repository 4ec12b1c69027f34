import Mathlib.Data.Nat.Digits.Defs
import PageMarkup.Proofs.Param.Chains
import PageMarkup.Proofs.Param.Fits
import PageMarkup.Proofs.Text.Spacing

/-!
# The search for a free number

Keys are any texts, and some of them denote numbers, several perhaps the same one. The key for an unnamed parameter is
found by counting from one as long as a live key denotes the number. Nothing bounds the count but that there are finitely
many keys (`CountsTo`), and it comes to the least number that none of them denotes. So an unnamed parameter never takes
the place of another one under its own key: it may put one out that its number has priority over, or go on record beside
one that has priority (`ParamTable.numbersUnnamed_of_reached`).
-/
namespace PageMarkup

/-! ## Numerals -/

/-- Whether a text is a numeral, and of which number: a digit from `1` to `9` with decimal digits of any script behind it
and perhaps the end of a line, where each digit counts ten times as much as it would one place further behind. -/
def Denotes (key : Text) (n : Nat) : Prop :=
  ∃ (first : Char) (digits lineEnd : Text) (values : List Nat), '1' ≤ first ∧ first ≤ '9' ∧
    (first :: digits).map decimalValue? = values.map some ∧ (lineEnd = [] ∨ lineEnd = ['\n']) ∧
    key = first :: digits ++ lineEnd ∧ n = Nat.ofDigits 10 values.reverse

/-- Digits that are read from a number on shift it by as many places as they are. -/
theorem Text.decimalFrom_eq_ofDigits {digits : Text} {values : List Nat} (h : digits.map decimalValue? = values.map some)
    (start : Nat) : decimalFrom start digits = start * 10 ^ values.length + Nat.ofDigits 10 values.reverse := by
  induction digits generalizing values start with
  | nil =>
    obtain rfl : values = [] := by simpa using h.symm
    simp [decimalFrom]
  | cons digit digits ih =>
    cases values with
    | nil => simp at h
    | cons value values =>
      obtain ⟨hdigit, hrest⟩ := List.cons.inj h
      rw [decimalFrom, ih hrest, hdigit, Option.getD_some, List.reverse_cons, Nat.ofDigits_append,
        Nat.ofDigits_singleton, List.length_reverse, List.length_cons, Nat.pow_succ]
      ring

theorem isDigit_of_le {c : Char} (hlow : '1' ≤ c) (hhigh : c ≤ '9') : c.isDigit = true := by
  rw [Text.isDigit_iff]
  have hone : ('1' : Char).toNat ≤ c.toNat := hlow
  have hnine : c.toNat ≤ ('9' : Char).toNat := hhigh
  simp only [Char.reduceToNat] at hone hnine
  omega

/-- A trimmed key denotes what it is read as. -/
theorem keyNumber?_eq_some_iff {key : Text} (htrim : Text.trim key = key) {n : Nat} :
    keyNumber? key = some n ↔ Denotes key n := by
  constructor
  · intro h
    cases key with
    | nil => simp [keyNumber?] at h
    | cons c rest =>
      rw [keyNumber?] at h
      split at h
      · rename_i hnumeral
        simp only [Bool.and_eq_true, decide_eq_true_eq, List.all_eq_true] at hnumeral
        obtain ⟨⟨hlow, hhigh⟩, hrest⟩ := hnumeral
        have hdecimal : ∀ d ∈ c :: rest, decimalValue? d = some ((decimalValue? d).getD 0) := by
          rintro d (_ | ⟨_, hd⟩)
          · rw [Text.decimalValue?_of_isDigit (isDigit_of_le hlow hhigh), Option.getD_some]
          · obtain ⟨value, hvalue⟩ := Option.isSome_iff_exists.mp (hrest d hd)
            rw [hvalue, Option.getD_some]
        have hvalues : (c :: rest).map decimalValue? = ((c :: rest).map fun d => (decimalValue? d).getD 0).map some := by
          rw [List.map_map]
          exact List.map_congr_left hdecimal
        refine ⟨c, rest, [], _, hlow, hhigh, hvalues, Or.inl rfl, by simp, ?_⟩
        rw [← Option.some.inj h, Text.decimal, Text.decimalFrom_eq_ofDigits hvalues, Nat.zero_mul, Nat.zero_add]
      · simp at h
  · rintro ⟨first, digits, lineEnd, values, hlow, hhigh, hvalues, hend, rfl, rfl⟩
    obtain rfl | rfl := hend
    · have hrest : digits.all isDecimal = true := by
        rw [List.all_eq_true]
        intro d hd
        have hmem := List.mem_map_of_mem (f := decimalValue?) (List.mem_cons_of_mem first hd)
        rw [hvalues] at hmem
        obtain ⟨value, -, hvalue⟩ := List.mem_map.mp hmem
        simp [isDecimal, ← hvalue]
      rw [List.append_nil, keyNumber?, if_pos (by simp [hlow, hhigh, hrest]), Text.decimal,
        Text.decimalFrom_eq_ofDigits hvalues, Nat.zero_mul, Nat.zero_add]
    · have htail := (Text.trim_eq_self_iff.mp htrim).2
      exact absurd (List.suffix_append _ _) (Text.trimEnd_eq_self_iff.mp htail '\n' (by decide))

/-! ## Counting -/

/-- How a count from `n` on ends, which goes on as long as it comes upon numbers that are used, wherever this leads. -/
inductive CountsTo (used : Nat → Prop) : Nat → Nat → Prop where
  | found {n : Nat} (hfree : ¬ used n) : CountsTo used n n
  | next {n stop : Nat} (hused : used n) (hrest : CountsTo used (n + 1) stop) : CountsTo used n stop

theorem countsTo_iff {used : Nat → Prop} {n stop : Nat} :
    CountsTo used n stop ↔ n ≤ stop ∧ ¬ used stop ∧ ∀ i, n ≤ i → i < stop → used i := by
  constructor
  · intro h
    induction h with
    | found hfree => exact ⟨Nat.le_refl _, hfree, fun i hi hlt => by omega⟩
    | @next n stop hused hrest ih =>
      obtain ⟨hle, hfree, hpassed⟩ := ih
      refine ⟨by omega, hfree, fun i hi hlt => ?_⟩
      obtain rfl | hbeyond := Nat.eq_or_lt_of_le hi
      · exact hused
      · exact hpassed i hbeyond hlt
  · rintro ⟨hle, hfree, hpassed⟩
    obtain ⟨steps, rfl⟩ := Nat.exists_eq_add_of_le hle
    induction steps generalizing n with
    | zero => exact CountsTo.found hfree
    | succ steps ih =>
      refine CountsTo.next (hpassed n (Nat.le_refl n) (by omega)) ?_
      have hshift : n + (steps + 1) = n + 1 + steps := by omega
      rw [hshift] at hfree hpassed ⊢
      exact ih (by omega) hfree fun i hi hlt => hpassed i (by omega) hlt

/-- A count from one on ends at the least positive number that is not used. -/
theorem countsTo_one_iff {used : Nat → Prop} {stop : Nat} :
    CountsTo used 1 stop ↔ IsLeast {n | 0 < n ∧ ¬ used n} stop := by
  rw [countsTo_iff]
  constructor
  · rintro ⟨hpos, hfree, hpassed⟩
    exact ⟨⟨hpos, hfree⟩, fun n hn => not_lt.mp fun hlt => hn.2 (hpassed n hn.1 hlt)⟩
  · rintro ⟨⟨hpos, hfree⟩, hleast⟩
    exact ⟨hpos, hfree, fun i hi hlt => by_contra fun hunused => not_lt.mpr (hleast ⟨hi, hunused⟩) hlt⟩

namespace ParamTable

variable {t u : ParamTable}

/-! ## Parameters that stay -/

/-- Whether no parameter was replaced under its key while another key was entered: each is as it was, up to the record
beside it, or its key is not live any more because the other one has priority over it. -/
def Spares (t u : ParamTable) (entered : Text) : Prop :=
  ∀ key p, Keyed.get? key t.live = some p →
    (∃ superseded, Keyed.get? key u.live = some { p with superseded }) ∨
      (Keyed.get? key u.live = none ∧ Outranks t.chains entered key)

theorem Spares.refl (t : ParamTable) (entered : Text) : t.Spares t entered := fun _ p hp => Or.inl ⟨p.superseded, hp⟩

theorem spares_addNew {p : Param} (hnew : t.isLive p.key = false) (position : Option Position) :
    t.Spares (t.addNew p position) p.key := by
  intro key q hq
  have hne : p.key ≠ key := by
    rintro rfl
    simp [isLive_iff.mpr ⟨q, hq⟩] at hnew
  exact Or.inl ⟨q.superseded, by simp [addNew, hne, hq]⟩

theorem spares_recordBeside (winner : Text) (p : Param) (initial : Bool) (entered : Text) :
    t.Spares (t.recordBeside winner p initial) entered := by
  intro key q hq
  unfold recordBeside
  split
  · rename_i old hold
    by_cases hkey : winner = key
    · subst hkey
      obtain rfl := Option.some.inj (hold.symm.trans hq)
      exact Or.inl ⟨_, Keyed.get?_put_self _ _ _⟩
    · exact Or.inl ⟨q.superseded, by simp [hkey, hq]⟩
  · exact Or.inl ⟨q.superseded, hq⟩

theorem spares_evict {p : Param} {loser : Text} (hnew : t.isLive p.key = false) (hranks : Outranks t.chains p.key loser)
    (position : Option Position) (initial : Bool) : t.Spares (t.evict loser p position initial) p.key := by
  intro key q hq
  have hne : p.key ≠ key := by
    rintro rfl
    simp [isLive_iff.mpr ⟨q, hq⟩] at hnew
  by_cases hkey : loser = key
  · subst hkey
    exact Or.inr ⟨by simp [evict, hne], hranks⟩
  · exact Or.inl ⟨q.superseded, by simp [evict, hne, hkey, hq]⟩

/-- A registration under a key that is not live replaces nothing. -/
theorem spares_register {r : Registration} (hnew : t.isLive (t.paramOf r).key = false) :
    t.Spares (t.register r).2 (t.paramOf r).key := by
  obtain ⟨-, hrun⟩ | ⟨-, -, hrun⟩ | ⟨old, -, hold, -⟩ | ⟨winner, -, hrun⟩ | ⟨loser, hover, hrun⟩ := t.register_cases r
  · rw [hrun]
    exact Spares.refl t _
  · rw [hrun]
    exact spares_addNew hnew r.position
  · simp [isLive_iff.mpr ⟨old, hold⟩] at hnew
  · rw [hrun]
    exact spares_recordBeside winner _ r.initial _
  · rw [hrun]
    exact spares_evict hnew (override?_eq_overrides hover).2.2 r.position r.initial

/-! ## Keys of unnamed parameters -/

theorem isLive_freeKey (t : ParamTable) : t.isLive t.freeKey = false := by
  rw [Bool.eq_false_iff, ne_eq, isLive_iff_mem_keys]
  exact t.freeKey_notMem

/-- What is unnamed is registered under the free key, and replaces nothing. -/
theorem spares_register_of_blank {r : Registration} (hblank : Text.trim r.key = []) :
    (t.paramOf r).key = t.freeKey ∧ t.Spares (t.register r).2 t.freeKey := by
  have hkey : (t.paramOf r).key = t.freeKey := by rw [paramOf_of_blank hblank]
  refine ⟨hkey, ?_⟩
  rw [← hkey]
  exact spares_register (hkey ▸ t.isLive_freeKey)

/-- Whether the value of a key stands for no name. -/
def IsBlankKey (key : Value) : Prop := key = .null ∨ ∃ k, key = .text k ∧ Text.trim k = []

/-- Whether a number is the least positive one that no live key denotes, and unnamed parameters are numbered with it. -/
structure NumbersUnnamed (t : ParamTable) (number : Nat) : Prop where
  /-- The count ends there and nowhere else. -/
  counted : ∀ stop, CountsTo (fun n => ∃ key, t.isLive key = true ∧ Denotes key n) 1 stop ↔ stop = number
  least : IsLeast {n | 0 < n ∧ ∀ key, t.isLive key = true → ¬ Denotes key n} number
  /-- The free key is the numeral of the number, unless a live key is a numeral that is too long to be read. -/
  found : t.expectFreeKey = .ok (Text.ofNat number) ∨
    ∃ key n, t.isLive key = true ∧ Denotes key n ∧ Text.maxNumeralDigits < key.length
  notLive : t.isLive (Text.ofNat number) = false
  registered : ∀ r, Text.trim r.key = [] →
    (t.paramOf r).key = Text.ofNat number ∧ t.Spares (t.register r).2 (Text.ofNat number)
  inserted : ∀ key value overwrite position answer u, IsBlankKey key →
    t.insert key value overwrite position = .ok (answer, u) → t.Spares u (Text.ofNat number)

theorem Reached.isLeast_leastFree {chains : List (List Text)} (ht : Reached chains t) :
    IsLeast {n | 0 < n ∧ ∀ key, t.isLive key = true → ¬ Denotes key n} t.leastFree := by
  have hsame : {n | 0 < n ∧ ∀ key, t.isLive key = true → ¬ Denotes key n} = FreeNumbers (· ∈ Keyed.keys t.live) := by
    ext n
    refine and_congr_right fun _ => forall_congr' fun key => ?_
    rw [isLive_iff_mem_keys]
    refine imp_congr_right fun hkey => ?_
    obtain ⟨p, hp⟩ := isLive_iff.mp (isLive_iff_mem_keys.mpr hkey)
    rw [ne_eq, keyNumber?_eq_some_iff (ht.fits hp).trim_key]
  rw [hsame]
  exact t.isLeast_leastFree

/-- In every table the search for a free number comes to an end, at the least positive number that no live key denotes.
Its numeral is no live key, and nothing that is registered without a name replaces a parameter under its own key. -/
theorem numbersUnnamed_of_reached {chains : List (List Text)} (ht : Reached chains t) : t.NumbersUnnamed t.leastFree where
  counted stop := by
    have hleast := ht.isLeast_leastFree
    have hcounts : CountsTo (fun n => ∃ key, t.isLive key = true ∧ Denotes key n) 1 stop ↔
        IsLeast {n | 0 < n ∧ ∀ key, t.isLive key = true → ¬ Denotes key n} stop := by
      simp only [countsTo_one_iff, not_exists, not_and]
    rw [hcounts]
    exact ⟨fun h => h.unique hleast, fun h => h ▸ hleast⟩
  least := ht.isLeast_leastFree
  found := by
    unfold expectFreeKey
    split
    · rename_i entry hentry
      have hlive := isLive_of_mem (List.mem_of_find?_eq_some hentry)
      have hoverlong := List.find?_some hentry
      simp only [isOverlongKey, isNumericKey, Bool.and_eq_true, decide_eq_true_eq] at hoverlong
      obtain ⟨n, hn⟩ := Option.isSome_iff_exists.mp hoverlong.2
      obtain ⟨p, hp⟩ := isLive_iff.mp hlive
      exact Or.inr ⟨entry.1, n, hlive, (keyNumber?_eq_some_iff (ht.fits hp).trim_key).mp hn, hoverlong.1⟩
    · exact Or.inl rfl
  notLive := t.isLive_freeKey
  registered r hblank := spares_register_of_blank hblank
  inserted key value overwrite position answer u hkey h := by
    obtain ⟨k, v, place, hk, -, -, hresult⟩ := insert_eq_ok h
    have hblank : Text.trim k = [] := by
      obtain ⟨-, rfl⟩ | rfl := hk
      · rfl
      · obtain hnull | ⟨s, hs, hblank⟩ := hkey
        · cases hnull
        · cases hs
          exact hblank
    have hu : u = (t.register { key := k, value := v, overwrite, position := place }).2 := congrArg Prod.snd hresult
    rw [hu]
    exact (spares_register_of_blank hblank).2

/-- Of the live keys two denote small numbers, one denotes twelve in digits of two scripts, one begins with a zero, and one
gives way to the number that is found. -/
theorem numbersUnnamed_of_reached_twoScripts :
    ∃ t, t = (empty [["user".toList, ['3']]]).run
        (["1", "user", "1\u0662", "2", "02"].map fun key => .insert (.text key.toList) (.text []) true .null) ∧
      Reached [["user".toList, ['3']]] t ∧ Denotes "1\u0662".toList 12 ∧ t.NumbersUnnamed 3 := by
  have htrim : TrimmedChains [["user".toList, ['3']]] := by
    simp only [TrimmedChains, List.mem_singleton, forall_eq]
    decide
  have hreached := Reached.run htrim Reached.empty
    (["1", "user", "1\u0662", "2", "02"].map fun key => .insert (.text key.toList) (.text []) true .null)
  have hdenotes : Denotes "1\u0662".toList 12 :=
    ⟨'1', ['\u0662'], [], [1, 2], by decide, by decide, by decide, Or.inl rfl, rfl, by decide⟩
  exact ⟨_, rfl, hreached, hdenotes, numbersUnnamed_of_reached hreached⟩

end ParamTable

end PageMarkup
