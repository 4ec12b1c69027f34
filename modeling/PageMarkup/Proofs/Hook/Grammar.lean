import PageMarkup.Proofs.Hook.Reading
import PageMarkup.Proofs.Text.Variants

/-!
# The grammar of hooks

A magic word that is a function may be written as its name or as one of its aliases that does not stand between
underscores. Each of them keeps a number sign of its own, or gets the one that the function is to have, and is closed
by a colon, and its letters are compared as far as case counts (`MagicWord.Spells`). A function that is listed several
times is known by the last of its words, at the place of the first (`Defines`). The hook of a text is the longest
beginning of it that has the form of a hook, and `HookTable.verify_iff_grammar` says that it is recognized as that of the
first function that spells it.
-/
namespace PageMarkup

/-! ## Spellings -/

/-- The sign that a name is written with and what stands behind it. A name that begins with a number sign keeps it, and
any other gets one if its function is not plain. -/
inductive Signed (plain : Bool) : Text → Text → Text → Prop
  | own (body : Text) : Signed plain ('#' :: body) ['#'] body
  | given {name : Text} (unsigned : name.head? ≠ some '#') (hashed : plain = false) : Signed plain name ['#'] name
  | bare {name : Text} (unsigned : name.head? ≠ some '#') (unhashed : plain = true) : Signed plain name [] name

/-- Whether a text ends in a colon, narrow or wide. -/
def EndsInColon (body : Text) : Prop := ∃ c ∈ body.getLast?, isHookColon c = true

/-- What a text is when it is closed: it stays as it is if it ends in a colon, and gets one otherwise. -/
inductive Closed : Text → Text → Prop
  | already {body : Text} (colon : EndsInColon body) : Closed body body
  | added {body : Text} (noColon : ¬ EndsInColon body) : Closed body (body ++ [':'])

/-- Whether a text is written with some letters. If case counts they are the same, except that the first of them may be
any character of its lower or upper case. -/
inductive WrittenWith : Bool → Text → Text → Prop
  | exactly {first c : Char} {rest : Text} (cased : c ∈ Text.lower [first] ∨ c ∈ Text.upper [first]) :
      WrittenWith true (first :: rest) (c :: rest)
  | anyCase {letters s : Text} (same : List.Forall₂ SameLetter letters s) : WrittenWith false letters s

def IsUnderscore (c : Char) : Prop := c = '_' ∨ c = '＿'

/-- Whether a name stands between underscores, with something between them. -/
def IsWrapped (name : Text) : Prop :=
  ∃ first inner last, name = first :: inner ++ [last] ∧ inner ≠ [] ∧ IsUnderscore first ∧ IsUnderscore last

namespace MagicWord

/-- What the function of a word may be called: its name, or an alias that does not stand between underscores. -/
inductive Calls (word : MagicWord) : Text → Prop
  | name : Calls word word.name
  | other {other : Text} (listed : other ∈ word.aliases) (unwrapped : ¬ IsWrapped other) : Calls word other

/-- Whether a hook is a way to write the function of a word. -/
def Spells (word : MagicWord) (hook : Text) : Prop :=
  ∃ name sign body letters written, word.Calls name ∧ Signed (isPlainFunction word.name) name sign body ∧
    Closed body letters ∧ WrittenWith word.caseSensitive letters written ∧ hook = sign ++ written

end MagicWord

theorem isUnderscored_iff {name : Text} : isUnderscored name = true ↔ IsWrapped name := by
  unfold isUnderscored
  constructor
  · intro h
    split at h
    · rename_i first d rest
      rw [Bool.and_eq_true] at h
      obtain ⟨hfirst, hlast⟩ := h
      split at hlast
      · rename_i last hrest
        obtain ⟨init, rfl⟩ := List.getLast?_eq_some_iff.mp hrest
        exact ⟨first, d :: init, last, rfl, by simp, by simpa [IsUnderscore] using hfirst,
          by simpa [IsUnderscore] using hlast⟩
      · simp at hlast
    · simp at h
  · rintro ⟨first, inner, last, rfl, hinner, hfirst, hlast⟩
    obtain ⟨d, rest, rfl⟩ := List.exists_cons_of_ne_nil hinner
    simpa [IsUnderscore] using ⟨hfirst, hlast⟩

namespace Spelling

theorem lettersMatch_iff {caseSensitive : Bool} {letters s : Text} :
    lettersMatch caseSensitive letters s = true ↔ WrittenWith caseSensitive letters s := by
  cases caseSensitive with
  | false =>
    simp only [lettersMatch, Bool.false_eq_true, if_false, Text.sameLetters_iff]
    constructor
    · exact .anyCase
    · intro h
      cases h with
      | anyCase same => exact same
  | true =>
    simp only [lettersMatch, if_true]
    constructor
    · intro h
      split at h
      · rename_i first rest c others
        rw [Bool.and_eq_true, beq_iff_eq] at h
        obtain ⟨hfirst, rfl⟩ := h
        exact .exactly (by simpa using hfirst)
      · simp at h
    · rintro ⟨cased⟩
      simpa using cased

/-- The sign of a spelling. -/
def sign (spelling : Spelling) : Text := if spelling.hashed then ['#'] else []

theorem accepts_iff {caseSensitive : Bool} {spelling : Spelling} {hook : Text} :
    spelling.accepts caseSensitive hook = true ↔
      ∃ written, WrittenWith caseSensitive spelling.letters written ∧ hook = spelling.sign ++ written := by
  obtain ⟨hashed, letters⟩ := spelling
  cases hashed with
  | false => simp [accepts, sign, lettersMatch_iff]
  | true =>
    simp only [accepts, sign, if_true]
    constructor
    · intro h
      split at h
      · rename_i rest
        exact ⟨rest, lettersMatch_iff.mp h, rfl⟩
      · simp at h
    · rintro ⟨written, hwritten, rfl⟩
      exact lettersMatch_iff.mpr hwritten

/-- The letters of a spelling are closed. -/
theorem closed_iff {body letters : Text} :
    Closed body letters ↔ letters =
      match body.getLast? with
      | some c => if isHookColon c then body else body ++ [':']
      | none => [':'] := by
  constructor
  · rintro (⟨c, hc, hcolon⟩ | hnone)
    · simp [Option.mem_def.mp hc, hcolon]
    · cases hlast : body.getLast? with
      | none => simp [List.getLast?_eq_none_iff.mp hlast]
      | some c =>
        have hc : isHookColon c ≠ true := fun hcolon => hnone ⟨c, hlast, hcolon⟩
        simp [hc]
  · rintro rfl
    cases hlast : body.getLast? with
    | none =>
      have hnone : ¬ EndsInColon body := by simp [EndsInColon, hlast]
      simpa [List.getLast?_eq_none_iff.mp hlast] using Closed.added hnone
    | some c =>
      by_cases hc : isHookColon c = true
      · simpa [hc] using Closed.already ⟨c, hlast, hc⟩
      · have hnone : ¬ EndsInColon body := by simpa [EndsInColon, hlast] using hc
        simpa [hc] using Closed.added hnone

/-- The spelling that a name gives rise to has the sign and the letters that the name is written with. -/
theorem ofName_iff {plain : Bool} {name sign letters : Text} :
    (∃ body, Signed plain name sign body ∧ Closed body letters) ↔
      sign = (ofName plain name).sign ∧ letters = (ofName plain name).letters := by
  by_cases hsigned : ∃ body, name = '#' :: body
  · obtain ⟨body, rfl⟩ := hsigned
    constructor
    · rintro ⟨body', hsign, hclosed⟩
      cases hsign with
      | own => exact ⟨rfl, closed_iff.mp hclosed⟩
      | given unsigned hashed => simp at unsigned
      | bare unsigned unhashed => simp at unsigned
    · rintro ⟨rfl, hletters⟩
      exact ⟨body, .own body, closed_iff.mpr hletters⟩
  · have hname : ∀ body, name ≠ '#' :: body := fun body h => hsigned ⟨body, h⟩
    have hunsigned : name.head? ≠ some '#' := fun h => by
      obtain ⟨rest, hrest⟩ := List.head?_eq_some_iff.mp h
      exact hname rest hrest
    rw [ofName.eq_2 _ _ hname]
    constructor
    · rintro ⟨body, hsign, hclosed⟩
      cases hsign with
      | own => exact absurd rfl (hname body)
      | given unsigned hashed => exact ⟨by simp [Spelling.sign, hashed], closed_iff.mp hclosed⟩
      | bare unsigned unhashed => exact ⟨by simp [Spelling.sign, unhashed], closed_iff.mp hclosed⟩
    · rintro ⟨rfl, hletters⟩
      cases plain with
      | false => exact ⟨name, .given hunsigned rfl, closed_iff.mpr hletters⟩
      | true => exact ⟨name, .bare hunsigned rfl, closed_iff.mpr hletters⟩

end Spelling

namespace MagicWord

variable {word : MagicWord}

/-- The names that an entry is made of are what its function may be called. -/
theorem calls_iff {name : Text} : word.Calls name ↔
    name ∈ word.name :: word.aliases.filter fun other => other != word.name && !isUnderscored other := by
  constructor
  · rintro (_ | ⟨listed, unwrapped⟩)
    · exact List.mem_cons_self
    · by_cases hname : name = word.name
      · exact hname ▸ List.mem_cons_self
      · refine List.mem_cons_of_mem _ (List.mem_filter.mpr ⟨listed, ?_⟩)
        simpa [hname] using mt isUnderscored_iff.mp unwrapped
  · intro h
    obtain rfl | h := List.mem_cons.mp h
    · exact .name
    · obtain ⟨listed, hkept⟩ := List.mem_filter.mp h
      simp only [Bool.and_eq_true, Bool.not_eq_true'] at hkept
      exact .other listed fun hwrapped => by simp [isUnderscored_iff.mpr hwrapped] at hkept

/-- The entry of a word accepts the hooks that the word spells. -/
theorem accepts_iff_spells {hook : Text} : (HookEntry.ofMagicWord word).accepts hook = true ↔ word.Spells hook := by
  simp only [HookEntry.accepts, HookEntry.ofMagicWord, List.any_map, List.any_eq_true, Function.comp_apply,
    Spelling.accepts_iff]
  constructor
  · rintro ⟨name, hname, written, hwritten, rfl⟩
    obtain ⟨body, hsign, hclosed⟩ := Spelling.ofName_iff.mpr ⟨rfl, rfl⟩
    exact ⟨name, _, body, _, written, calls_iff.mpr hname, hsign, hclosed, hwritten, rfl⟩
  · rintro ⟨name, sign, body, letters, written, hname, hsign, hclosed, hwritten, rfl⟩
    obtain ⟨rfl, rfl⟩ := Spelling.ofName_iff.mp ⟨body, hsign, hclosed⟩
    exact ⟨name, calls_iff.mp hname, written, hwritten, rfl⟩

end MagicWord

/-! ## The functions of a site -/

/-- No plain function has a number sign in front, so that it is no other function with the sign that it is to have. -/
theorem canonicalHook_injective : Function.Injective canonicalHook := by
  have hplain : ∀ {name : Text}, isPlainFunction ('#' :: name) = false := by
    intro name
    have hall : (plainFunctions.all fun plain => plain.head? != some '#') = true := by decide
    rw [Bool.eq_false_iff]
    intro hmem
    rw [isPlainFunction, List.contains_iff_mem] at hmem
    simpa using List.all_eq_true.mp hall _ hmem
  intro a b h
  have hsigned := List.append_cancel_right h
  cases ha : isPlainFunction a <;> cases hb : isPlainFunction b <;>
    simp only [ha, hb, if_true, if_false, Bool.false_eq_true, List.nil_append, List.singleton_append] at hsigned
  · exact (List.cons.inj hsigned).2
  · -- the plain one of two functions would begin with the sign of the other
    simp [← hsigned, hplain] at hb
  · simp [hsigned, hplain] at ha
  · exact hsigned

/-- Functions have the places of their canonical hooks. -/
theorem idxOf_canonicalHook (listed : List MagicWord) (name : Text) :
    (listed.map fun word => canonicalHook word.name).idxOf (canonicalHook name) = (listed.map (·.name)).idxOf name := by
  induction listed with
  | nil => rfl
  | cons first rest ih =>
    have hsame : (canonicalHook first.name == canonicalHook name) = (first.name == name) := by
      rw [Bool.eq_iff_iff, beq_iff_eq, beq_iff_eq, canonicalHook_injective.eq_iff]
    rw [List.map_cons, List.map_cons, List.idxOf_cons, List.idxOf_cons, hsame, ih]

/-- The magic words that are functions, in the order in which they are listed. -/
def functionWords (words : List MagicWord) (functionHooks : List Text) : List MagicWord :=
  words.filter fun word => functionHooks.contains word.name

/-- Whether a function is known by a word, as it is the last one that is listed under its name. -/
def Defines (listed : List MagicWord) (word : MagicWord) : Prop :=
  ∃ before behind, listed = before ++ word :: behind ∧ ∀ other ∈ behind, other.name ≠ word.name

/-- The word of the first function that spells a hook, where functions are in the order in which their names are first
listed. -/
structure FirstToSpell (listed : List MagicWord) (hook : Text) (word : MagicWord) : Prop where
  defines : Defines listed word
  spells : word.Spells hook
  first : ∀ other, Defines listed other → other.Spells hook →
    (listed.map (·.name)).idxOf word.name ≤ (listed.map (·.name)).idxOf other.name

/-- The hook of a text: the longest beginning of it that has the form of a hook, blanks around the text aside. -/
structure IsHookOf (s hook : Text) : Prop where
  form : IsHook hook
  begins : hook <+: Text.trim s
  longest : ∀ other, IsHook other → other <+: Text.trim s → other.length ≤ hook.length

theorem hookCandidate?_eq_some_iff_isHookOf {s hook : Text} : hookCandidate? s = some hook ↔ IsHookOf s hook := by
  constructor
  · intro h
    obtain ⟨hform, hbegins⟩ := hookCandidate?_eq_some_iff.mp h
    refine ⟨hform, hbegins, fun other hother hprefix => ?_⟩
    have hsame := hookCandidate?_eq_some_iff.mpr ⟨hother, hprefix⟩
    rw [h] at hsame
    rw [Option.some.inj hsame]
  · intro h
    exact hookCandidate?_eq_some_iff.mpr ⟨h.form, h.begins⟩

theorem defines_iff {listed : List MagicWord} {word : MagicWord} :
    Defines listed word ↔ listed.reverse.find? (fun other => canonicalHook other.name = canonicalHook word.name) =
      some word := by
  simp only [List.find?_eq_some_iff_append, decide_true, true_and, canonicalHook_injective.eq_iff, Bool.not_eq_true',
    decide_eq_false_iff_not]
  constructor
  · rintro ⟨before, behind, rfl, hlast⟩
    exact ⟨behind.reverse, before.reverse, by simp, fun other hother => hlast other (List.mem_reverse.mp hother)⟩
  · rintro ⟨behind, before, hlisted, hlast⟩
    refine ⟨before.reverse, behind.reverse, ?_, fun other hother => hlast other (List.mem_reverse.mp hother)⟩
    rw [← List.reverse_reverse listed, hlisted]
    simp

theorem Defines.mem {listed : List MagicWord} {word : MagicWord} (h : Defines listed word) : word ∈ listed := by
  obtain ⟨before, behind, rfl, -⟩ := h
  simp

namespace HookTable

variable {words : List MagicWord} {functionHooks : List Text} {s hook : Text}

/-- The table has the entry of each function that is listed, as the last of its words defines it. -/
theorem mem_ofMagicWords_iff {canonical : Text} {entry : HookEntry} :
    (canonical, entry) ∈ ofMagicWords words functionHooks ↔
      ∃ word, Defines (functionWords words functionHooks) word ∧ canonicalHook word.name = canonical ∧
        HookEntry.ofMagicWord word = entry := by
  have hget := Keyed.get?_foldl_put (fun word : MagicWord => canonicalHook word.name) HookEntry.ofMagicWord
    (functionWords words functionHooks) canonical
  constructor
  · intro h
    have hfound := hget.symm.trans (Keyed.get?_of_mem (nodup_keys_ofMagicWords words functionHooks) h)
    obtain ⟨word, hword, hentry⟩ := Option.map_eq_some_iff.mp hfound
    obtain rfl : canonicalHook word.name = canonical := by simpa using List.find?_some hword
    exact ⟨word, defines_iff.mpr hword, rfl, hentry⟩
  · rintro ⟨word, hdefines, rfl, rfl⟩
    exact Keyed.mem_of_get? (hget.trans (by rw [defines_iff.mp hdefines]; rfl))

/-- Entries are in the order in which the names of their functions are first listed. -/
theorem idxOf_keys_le_iff {word other : MagicWord} (hword : word ∈ functionWords words functionHooks)
    (hother : other ∈ functionWords words functionHooks) :
    (Keyed.keys (ofMagicWords words functionHooks)).idxOf (canonicalHook word.name) ≤
        (Keyed.keys (ofMagicWords words functionHooks)).idxOf (canonicalHook other.name) ↔
      ((functionWords words functionHooks).map (·.name)).idxOf word.name ≤
        ((functionWords words functionHooks).map (·.name)).idxOf other.name := by
  have hkey := Keyed.idxOf_keys_foldl_put_le_iff (fun word : MagicWord => canonicalHook word.name)
    HookEntry.ofMagicWord (List.mem_map_of_mem hword) (List.mem_map_of_mem hother)
  rwa [idxOf_canonicalHook, idxOf_canonicalHook] at hkey

/-- The entry that is found for a hook is that of the first function that spells it. -/
theorem find?_iff_firstToSpell {canonical : Text} {entry : HookEntry} :
    (ofMagicWords words functionHooks).find? (fun entry => entry.2.accepts hook) = some (canonical, entry) ↔
      ∃ word, FirstToSpell (functionWords words functionHooks) hook word ∧ canonicalHook word.name = canonical ∧
        HookEntry.ofMagicWord word = entry := by
  rw [Keyed.find?_eq_some_iff_idxOf (nodup_keys_ofMagicWords words functionHooks)]
  constructor
  · rintro ⟨hmem, haccepts, hfirst⟩
    obtain ⟨word, hdefines, rfl, rfl⟩ := mem_ofMagicWords_iff.mp hmem
    refine ⟨word, ⟨hdefines, MagicWord.accepts_iff_spells.mp haccepts, fun other hother hspells => ?_⟩, rfl, rfl⟩
    exact (idxOf_keys_le_iff hdefines.mem hother.mem).mp
      (hfirst (_, _) (mem_ofMagicWords_iff.mpr ⟨other, hother, rfl, rfl⟩) (MagicWord.accepts_iff_spells.mpr hspells))
  · rintro ⟨word, hword, rfl, rfl⟩
    refine ⟨mem_ofMagicWords_iff.mpr ⟨word, hword.defines, rfl, rfl⟩, MagicWord.accepts_iff_spells.mpr hword.spells, ?_⟩
    rintro ⟨canonical, entry⟩ hmem haccepts
    obtain ⟨other, hother, rfl, rfl⟩ := mem_ofMagicWords_iff.mp hmem
    exact (idxOf_keys_le_iff hword.defines.mem hother.mem).mpr
      (hword.first other hother (MagicWord.accepts_iff_spells.mp haccepts))

/-- No hook is recognized if no entry accepts the candidate. -/
theorem verify_eq_none_iff {table : HookTable} :
    table.verify s = none ↔
      ∀ hook, hookCandidate? s = some hook → ∀ entry ∈ table, ¬ entry.2.accepts hook = true := by
  unfold verify
  cases hookCandidate? s with
  | none => simp
  | some hook => simp [List.find?_eq_none, ← Option.eq_none_iff_forall_ne_some]

/-- The hook of a text is recognized as that of the first function that spells it, and it is not recognized if no
function does. -/
theorem verify_iff_grammar (words : List MagicWord) (functionHooks : List Text) (s : Text) :
    (∀ verified, (ofMagicWords words functionHooks).verify s = some verified ↔
      IsHookOf s verified.written ∧ ∃ word, FirstToSpell (functionWords words functionHooks) verified.written word ∧
        verified.canonical = canonicalHook word.name) ∧
    ((ofMagicWords words functionHooks).verify s = none ↔
      ∀ hook, IsHookOf s hook → ∀ word, Defines (functionWords words functionHooks) word → ¬ word.Spells hook) := by
  constructor
  · intro verified
    rw [verify_eq_some_iff, hookCandidate?_eq_some_iff_isHookOf]
    simp only [find?_iff_firstToSpell]
    refine and_congr_right fun _ => ?_
    constructor
    · rintro ⟨_, word, hword, hcanonical, -⟩
      exact ⟨word, hword, hcanonical.symm⟩
    · rintro ⟨word, hword, hcanonical⟩
      exact ⟨_, word, hword, hcanonical.symm, rfl⟩
  · rw [verify_eq_none_iff]
    simp only [hookCandidate?_eq_some_iff_isHookOf]
    refine forall_congr' fun hook => imp_congr_right fun _ => ?_
    constructor
    · intro hnone word hdefines hspells
      exact hnone _ (mem_ofMagicWords_iff.mpr ⟨word, hdefines, rfl, rfl⟩) (MagicWord.accepts_iff_spells.mpr hspells)
    · rintro hnone ⟨canonical, entry⟩ hmem haccepts
      obtain ⟨word, hdefines, rfl, rfl⟩ := mem_ofMagicWords_iff.mp hmem
      exact hnone word hdefines (MagicWord.accepts_iff_spells.mp haccepts)

end HookTable

end PageMarkup
