import PageMarkup.Hook.Table
import PageMarkup.Proofs.Keyed
import PageMarkup.Proofs.Text.Spacing

/-!
# Hooks that are read again

The candidate for a hook is known by two things: it has the form of a hook (`IsHook`), and the text begins with it once
the blanks around are gone (`hookCandidate?_eq_some_iff`). No text behind a hook can change that, so a hook that was
recognized is recognized again in front of any text (`HookTable.verify_append`). The canonical form of a hook is
recognized as itself as well, if the function has a name that hooks can be made of (`IsHookName`) and no entry accepts
the canonical form of a later one (`HookTable.verify_canonical_append`).
-/
namespace PageMarkup

theorem not_isBlank_of_isHookColon {c : Char} (h : isHookColon c = true) : isBlank c = false := by
  simp only [isHookColon, Bool.or_eq_true, decide_eq_true_eq] at h
  obtain rfl | rfl := h
  · rfl
  · rfl

theorem not_isBlank_of_isHookChar {c : Char} (h : isHookChar c = true) : isBlank c = false := by
  simp only [isHookChar, Bool.and_eq_true, Bool.not_eq_true'] at h
  exact h.2

/-- Whether a text has the form of a hook: some characters of a hook and a colon behind them. -/
def IsHook (hook : Text) : Prop :=
  ∃ run c, hook = run ++ [c] ∧ run ≠ [] ∧ (∀ d ∈ run, isHookChar d = true) ∧ isHookColon c = true

namespace IsHook

variable {hook : Text}

theorem ne_nil (h : IsHook hook) : hook ≠ [] := by
  obtain ⟨run, c, rfl, -⟩ := h
  simp

theorem not_isBlank_of_mem (h : IsHook hook) {d : Char} (hd : d ∈ hook) : isBlank d = false := by
  obtain ⟨run, c, rfl, -, hrun, hcolon⟩ := h
  obtain hmem | hmem := List.mem_append.mp hd
  · exact not_isBlank_of_isHookChar (hrun d hmem)
  · obtain rfl := List.mem_singleton.mp hmem
    exact not_isBlank_of_isHookColon hcolon

/-- Between blanks and any other text, a hook stays what the text begins with. -/
theorem prefixOf_trim (h : IsHook hook) {lead : Text} (hlead : ∀ d ∈ lead, isBlank d = true) (behind : Text) :
    hook <+: Text.trim (lead ++ hook ++ behind) := by
  have hdrop : Text.trim (lead ++ (hook ++ behind)) = Text.trim (hook ++ behind) := by
    rw [Text.trim, Text.trimStart_append_of_forall _ hlead, Text.trim]
  rw [List.append_assoc, hdrop, Text.trim_append_of_not_isBlank _ h.ne_nil fun d hd => h.not_isBlank_of_mem hd]
  exact List.prefix_append _ _

end IsHook

/-- The candidate is the one hook that the text begins with, blanks aside. -/
theorem hookCandidate?_eq_some_iff {s hook : Text} :
    hookCandidate? s = some hook ↔ IsHook hook ∧ hook <+: Text.trim s := by
  constructor
  · intro h
    simp only [hookCandidate?] at h
    have hsplit := List.takeWhile_append_dropWhile (p := isHookChar) (l := Text.trim s)
    split at h
    · rename_i c rest hdrop
      rw [hdrop] at hsplit
      split at h
      · rename_i hcond
        rw [Bool.and_eq_true] at hcond
        obtain rfl := Option.some.inj h
        exact ⟨⟨_, c, rfl, by simpa using hcond.1, fun d hd => List.mem_takeWhile_imp hd, hcond.2⟩,
          rest, by simpa using hsplit⟩
      · simp at h
    · simp at h
  · rintro ⟨⟨run, c, rfl, hne, hrun, hcolon⟩, rest, hrest⟩
    have hstop : isHookChar c = false := by simp [isHookChar, hcolon]
    have hbody : Text.trim s = run ++ c :: rest := by simp [← hrest]
    have htake : (Text.trim s).takeWhile isHookChar = run := by
      rw [hbody, List.takeWhile_append_of_pos hrun, List.takeWhile_cons_of_neg (by simp [hstop]), List.append_nil]
    have hdrop : (Text.trim s).dropWhile isHookChar = c :: rest := by
      rw [hbody, List.dropWhile_append_of_pos hrun, List.dropWhile_cons_of_neg (by simp [hstop])]
    simp only [hookCandidate?]
    rw [htake, hdrop]
    simp [hne, hcolon]

namespace HookTable

variable {table : HookTable} {s : Text} {verified : VerifiedHook}

/-- A hook is recognized if it is the candidate and the first entry that accepts it is that of its canonical form. -/
theorem verify_eq_some_iff :
    table.verify s = some verified ↔ hookCandidate? s = some verified.written ∧
      ∃ entry, table.find? (fun entry => entry.2.accepts verified.written) = some (verified.canonical, entry) := by
  unfold verify
  constructor
  · intro h
    obtain ⟨candidate, hcandidate, h⟩ := Option.bind_eq_some_iff.mp h
    obtain ⟨entry, hentry, h⟩ := Option.bind_eq_some_iff.mp h
    obtain rfl := Option.some.inj h
    exact ⟨hcandidate, entry.2, hentry⟩
  · rintro ⟨hcandidate, entry, hentry⟩
    exact Option.bind_eq_some_iff.mpr ⟨_, hcandidate, Option.bind_eq_some_iff.mpr ⟨_, hentry, rfl⟩⟩

theorem isHook_of_verify (h : table.verify s = some verified) : IsHook verified.written :=
  (hookCandidate?_eq_some_iff.mp (verify_eq_some_iff.mp h).1).1

/-- A hook is recognized as what the text begins with, blanks aside. -/
theorem verify_prefixOf (h : table.verify s = some verified) : verified.written <+: Text.trim s :=
  (hookCandidate?_eq_some_iff.mp (verify_eq_some_iff.mp h).1).2

/-- A hook ends in its only colon and has no blanks. -/
theorem exists_of_verify (h : table.verify s = some verified) :
    ∃ run c, verified.written = run ++ [c] ∧ (∀ d ∈ run, isHookChar d = true) ∧ isHookColon c = true := by
  obtain ⟨run, c, hwritten, -, hrun, hcolon⟩ := isHook_of_verify h
  exact ⟨run, c, hwritten, hrun, hcolon⟩

/-- A hook that was recognized is recognized again as it was written, between blanks and any other text. -/
theorem verify_append (h : table.verify s = some verified) {lead : Text} (hlead : ∀ d ∈ lead, isBlank d = true)
    (behind : Text) : table.verify (lead ++ verified.written ++ behind) = some verified := by
  have hhook := isHook_of_verify h
  exact verify_eq_some_iff.mpr
    ⟨hookCandidate?_eq_some_iff.mpr ⟨hhook, hhook.prefixOf_trim hlead behind⟩, (verify_eq_some_iff.mp h).2⟩

end HookTable

/-! ## Canonical hooks -/

/-- Whether hooks can be made of the name of a function: it has no blanks and no colons, no number sign in front, and a
first character that one of the cases leaves alone. -/
structure IsHookName (name : Text) : Prop where
  ne_nil : name ≠ []
  chars : ∀ c ∈ name, isHookChar c = true
  unhashed : ∀ rest, name ≠ '#' :: rest
  cased : ∀ c rest, name = c :: rest → Text.lower [c] = [c] ∨ Text.upper [c] = [c]

theorem isHookChar_hash : isHookChar '#' = true := by decide

namespace Spelling

/-- Letters match themselves, whether case counts or not, if one of the cases leaves the first of them alone. -/
theorem lettersMatch_self {letters : Text} (hne : letters ≠ [])
    (hcased : ∀ c rest, letters = c :: rest → Text.lower [c] = [c] ∨ Text.upper [c] = [c]) (caseSensitive : Bool) :
    lettersMatch caseSensitive letters letters = true := by
  cases caseSensitive with
  | false => exact Text.sameLetters_refl letters
  | true =>
    cases letters with
    | nil => exact absurd rfl hne
    | cons c rest =>
      obtain hlower | hupper := hcased c rest rfl
      · simp [lettersMatch, hlower]
      · simp [lettersMatch, hupper]

end Spelling

namespace IsHookName

variable {name : Text}

theorem isHook_canonicalHook (h : IsHookName name) : IsHook (canonicalHook name) := by
  refine ⟨(if isPlainFunction name then [] else ['#']) ++ name, ':', rfl, by simp [h.ne_nil], fun d hd => ?_, by decide⟩
  obtain hhash | hname := List.mem_append.mp hd
  · split at hhash
    · simp at hhash
    · rw [List.mem_singleton.mp hhash]
      exact isHookChar_hash
  · exact h.chars d hname

/-- The spelling that a name gives rise to is its letters in front of a colon. -/
theorem ofName_eq (h : IsHookName name) (plain : Bool) : Spelling.ofName plain name = ⟨!plain, name ++ [':']⟩ := by
  unfold Spelling.ofName
  split
  · rename_i rest
    exact absurd rfl (h.unhashed rest)
  · have hcolon : ∀ c, name.getLast? = some c → isHookColon c = false := by
      intro c hc
      have hchar := h.chars c (List.mem_of_getLast? hc)
      simp only [isHookChar, Bool.and_eq_true, Bool.not_eq_true'] at hchar
      exact hchar.1
    dsimp only
    split
    · rename_i c hc
      rw [hcolon c hc]
      rfl
    · rename_i hnone
      exact absurd (List.getLast?_eq_none_iff.mp hnone) h.ne_nil

/-- A function accepts its own canonical hook, in the spelling of its name. -/
theorem accepts_canonicalHook {word : MagicWord} (h : IsHookName word.name) :
    (HookEntry.ofMagicWord word).accepts (canonicalHook word.name) = true := by
  have hcased : ∀ c rest, word.name ++ [':'] = c :: rest → Text.lower [c] = [c] ∨ Text.upper [c] = [c] := by
    intro c rest hcons
    obtain ⟨d, others, hname⟩ := List.exists_cons_of_ne_nil h.ne_nil
    rw [hname, List.cons_append] at hcons
    obtain rfl := (List.cons.inj hcons).1
    exact h.cased d others hname
  have hletters := Spelling.lettersMatch_self (by simp) hcased word.caseSensitive
  have hown : (Spelling.ofName (isPlainFunction word.name) word.name).accepts word.caseSensitive
      (canonicalHook word.name) = true := by
    rw [h.ofName_eq]
    cases hplain : isPlainFunction word.name with
    | true => simpa [Spelling.accepts, canonicalHook, hplain] using hletters
    | false => simpa [Spelling.accepts, canonicalHook, hplain] using hletters
  simp [HookEntry.accepts, HookEntry.ofMagicWord, hown]

end IsHookName

namespace HookTable

variable {words : List MagicWord} {functionHooks : List Text}

theorem nodup_keys_ofMagicWords (words : List MagicWord) (functionHooks : List Text) :
    (Keyed.keys (ofMagicWords words functionHooks)).Nodup :=
  Keyed.nodup_keys_foldl_put (fun word : MagicWord => canonicalHook word.name) HookEntry.ofMagicWord _ List.nodup_nil

/-- An entry of a table is that of one of the functions, under its canonical hook. -/
theorem exists_word_of_mem {canonical : Text} {entry : HookEntry}
    (h : (canonical, entry) ∈ ofMagicWords words functionHooks) :
    ∃ word ∈ words, word.name ∈ functionHooks ∧ canonicalHook word.name = canonical ∧
      HookEntry.ofMagicWord word = entry := by
  have hget := Keyed.get?_of_mem (nodup_keys_ofMagicWords words functionHooks) h
  rw [ofMagicWords] at hget
  obtain ⟨word, hword, hcanonical, hentry⟩ | hnone := Keyed.get?_foldl_put_cases hget
  · obtain ⟨hmem, hfunction⟩ := List.mem_filter.mp hword
    exact ⟨word, hmem, by simpa using hfunction, hcanonical, hentry⟩
  · simp [Keyed.get?] at hnone

/-- Whether no entry accepts the canonical hook of a later one. -/
def Unshadowed (table : HookTable) : Prop :=
  table.Pairwise fun before entry => before.2.accepts entry.1 = false

/-- An entry that accepts its own canonical hook is the first one to do so. -/
theorem Unshadowed.find?_canonical {table : HookTable} (h : table.Unshadowed) {canonical : Text} {entry : HookEntry}
    (hmem : (canonical, entry) ∈ table) (haccepts : entry.accepts canonical = true) :
    table.find? (fun other => other.2.accepts canonical) = some (canonical, entry) := by
  obtain ⟨before, behind, rfl⟩ := List.append_of_mem hmem
  refine List.find?_eq_some_iff_append.mpr ⟨haccepts, before, behind, rfl, fun other hother => ?_⟩
  have hnone := (List.pairwise_append.mp h).2.2 other hother _ List.mem_cons_self
  simp [hnone]

/-- A canonical hook is recognized as itself, between blanks and any other text. -/
theorem verify_canonical_append (hnames : ∀ word ∈ words, word.name ∈ functionHooks → IsHookName word.name)
    (hfirst : (ofMagicWords words functionHooks).Unshadowed) {canonical : Text} {entry : HookEntry}
    (hmem : (canonical, entry) ∈ ofMagicWords words functionHooks) {lead : Text}
    (hlead : ∀ d ∈ lead, isBlank d = true) (behind : Text) :
    (ofMagicWords words functionHooks).verify (lead ++ canonical ++ behind) = some ⟨canonical, canonical⟩ := by
  obtain ⟨word, hword, hfunction, hcanonical, hentry⟩ := exists_word_of_mem hmem
  have hname := hnames word hword hfunction
  have hhook : IsHook canonical := hcanonical ▸ hname.isHook_canonicalHook
  have haccepts : entry.accepts canonical = true := hcanonical ▸ hentry ▸ hname.accepts_canonicalHook
  exact verify_eq_some_iff.mpr ⟨hookCandidate?_eq_some_iff.mpr ⟨hhook, hhook.prefixOf_trim hlead behind⟩, entry,
    hfirst.find?_canonical hmem haccepts⟩

end HookTable

end PageMarkup
