import PageMarkup.Proofs.Site.Names
import PageMarkup.Proofs.Text.Search
import PageMarkup.Proofs.Title.Tidy

/-!
# The parts of a text that is read

Reading a title takes a leading colon and a fragment off the tidied text (`writtenBody`, `writtenFragment`), recognizes
one prefix of the rest, and capitalizes. `read_eq_ok_iff` says what a text has to be for a title to come out;
`parts_of_pieces` says what the parts are of a text that is put together from a colon, a body and a fragment.
-/
namespace PageMarkup.Title

open Text

/-! ## The parts -/

/-- Whether the text is read with a colon in front. -/
def hasColon (given : Text) : Bool := startsWith [':'] (tidy given)

/-- The tidied text behind a leading colon. -/
def behindColon (given : Text) : Text := if hasColon given then trimStart ((tidy given).drop 1) else tidy given

/-- What is read as the name of the page and its prefix. -/
def writtenBody (given : Text) : Text := (cutFragment (behindColon given)).1

def writtenFragment (given : Text) : Text := (cutFragment (behindColon given)).2

/-- The name of the page behind its prefix, before it is capitalized. -/
def writtenName (site : Site) (given : Text) : Text := (resolveLead site (writtenBody given)).2

/-- The title that is read when nothing is wrong with it. -/
def built (site : Site) (given : Text) (fallback : Int) : Title :=
  let place := (resolveLead site (writtenBody given)).1.destination site
    (if hasColon given then site.mainId else fallback)
  { site
    namespaceId := place.1
    main := applyCase site place.1 place.2 (writtenName site given)
    fragment := writtenFragment given
    interwiki := place.2
    leadingColon := hasColon given }

/-- A text is read if its characters are legal and its name has no flaw. -/
theorem read_eq_ok_iff {site : Site} {given : Text} {fallback : Int} {t : Title} :
    read site given fallback = .ok t ↔
      (∀ c ∈ writtenBody given, isIllegalInTitle c = false) ∧
        flaw? (resolveLead site (writtenBody given)).1 (writtenName site given) (writtenFragment given) = none ∧
        t = built site given fallback := by
  unfold read
  extract_lets tidied leadingColon body fallback'
  have hbody : cutFragment body = (writtenBody given, writtenFragment given) := rfl
  rw [hbody]
  dsimp only
  by_cases hillegal : (writtenBody given).any isIllegalInTitle = true
  · rw [if_pos hillegal]
    obtain ⟨c, hc, hbad⟩ := List.any_eq_true.mp hillegal
    refine iff_of_false (by simp) fun h => ?_
    simp [h.1 c hc] at hbad
  · rw [if_neg hillegal]
    have hlegal : ∀ c ∈ writtenBody given, isIllegalInTitle c = false := by simpa using hillegal
    unfold built writtenName
    generalize resolveLead site (writtenBody given) = resolved
    obtain ⟨lead, main⟩ := resolved
    dsimp only
    cases flaw? lead main (writtenFragment given) with
    | some flaw => simp
    | none => exact ⟨fun h => ⟨hlegal, rfl, (Except.ok.inj h).symm⟩, fun h => congrArg Except.ok h.2.2.symm⟩

/-- Whether a text is read can be evaluated. -/
theorem read_eq_built {site : Site} {given : Text} (fallback : Int)
    (h : (writtenBody given).any isIllegalInTitle = false ∧
      (flaw? (resolveLead site (writtenBody given)).1 (writtenName site given) (writtenFragment given)).isNone = true) :
    read site given fallback = .ok (built site given fallback) := by
  have hlegal : ∀ c ∈ writtenBody given, isIllegalInTitle c = false := by simpa using List.any_eq_false.mp h.1
  exact read_eq_ok_iff.mpr ⟨hlegal, Option.isNone_iff_eq_none.mp h.2, rfl⟩

theorem exists_read_eq_ok {site : Site} {given main interwiki : Text} {fallback id : Int}
    (h : ((writtenBody given).any isIllegalInTitle = false ∧
        (flaw? (resolveLead site (writtenBody given)).1 (writtenName site given) (writtenFragment given)).isNone = true) ∧
      (built site given fallback).namespaceId = id ∧ (built site given fallback).main = main ∧
      (built site given fallback).interwiki = interwiki) :
    ∃ t, read site given fallback = .ok t ∧ t.namespaceId = id ∧ t.main = main ∧ t.interwiki = interwiki :=
  ⟨_, read_eq_built fallback h.1, h.2⟩

/-! ## Pieces -/

/-- A text is tidied on both sides of a character that means something in a title. -/
theorem tidy_append_cons {c : Char} (a b : Text) (hblank : isBlank c = false) (hline : c ≠ '_')
    (hmark : isDirectionMark c = false) : tidy (a ++ c :: b) = trimStart (spread a) ++ c :: trimEnd (spread b) := by
  rw [tidy_eq_trim_spread, spread_append_cons a b hblank hline hmark, trim, trimStart_append_cons _ _ hblank,
    trimEnd_append_cons _ _ hblank]

theorem tidy_append_colon (a b : Text) : tidy (a ++ ':' :: b) = trimStart (spread a) ++ ':' :: trimEnd (spread b) :=
  tidy_append_cons a b (by decide) (by decide) (by decide)

theorem tidy_append_hash (a b : Text) : tidy (a ++ '#' :: b) = trimStart (spread a) ++ '#' :: trimEnd (spread b) :=
  tidy_append_cons a b (by decide) (by decide) (by decide)

theorem hasColon_colon (rest : Text) : hasColon (':' :: rest) = true := by
  rw [hasColon, ← List.nil_append (':' :: rest), tidy_append_colon]
  rfl

theorem behindColon_colon (rest : Text) : behindColon (':' :: rest) = tidy rest := by
  rw [behindColon, if_pos (hasColon_colon rest), ← List.nil_append (':' :: rest), tidy_append_colon,
    show spread [] = [] from rfl, tidy_eq_trim_spread, ← trimStart_trimEnd]
  rfl

theorem behindColon_of_not_hasColon {given : Text} (h : hasColon given = false) : behindColon given = tidy given := by
  rw [behindColon, h]
  rfl

/-- Without a number sign everything is read as the name. -/
theorem cutFragment_tidy {core : Text} (h : '#' ∉ core) : cutFragment (tidy core) = (tidy core, []) := by
  rw [cutFragment, cutAtFirst_of_notMem (notMem_tidy (by decide) h)]

theorem cutFragment_tidy_hash {core : Text} (fragment : Text) (h : '#' ∉ core) :
    cutFragment (tidy (core ++ '#' :: fragment)) = (tidy core, tidy fragment) := by
  have hcut : '#' ∉ trimStart (spread core) := by
    intro hmem
    exact (mem_spread ((trimStart_suffix _).subset hmem)).elim h (by decide)
  rw [tidy_append_hash, cutFragment, cutAtFirst_append_cons _ hcut]
  dsimp only
  rw [trim, trimStart_trimEnd, trim, trimEnd_trimEnd, tidy_eq_trim_spread, tidy_eq_trim_spread, trim, trim]

theorem startsWith_colon_iff (s : Text) : startsWith [':'] s = true ↔ ∃ rest, s = ':' :: rest := by
  rw [startsWith_iff]
  exact exists_congr fun rest => eq_comm

/-- A fragment does not put a colon in front. -/
theorem hasColon_append_hash {core : Text} (fragment : Text) (h : hasColon core = false) :
    hasColon (core ++ '#' :: fragment) = false := by
  rw [Bool.eq_false_iff, hasColon, Ne, startsWith_colon_iff, tidy_append_hash]
  rintro ⟨rest, hrest⟩
  cases hstart : trimStart (spread core) with
  | nil => simp [hstart] at hrest
  | cons c s =>
    rw [hstart] at hrest
    obtain ⟨rfl, -⟩ := List.cons.inj hrest
    rw [hasColon, tidy_eq_trim_spread, trim, hstart, trimEnd_cons s (by decide)] at h
    simp [startsWith] at h

/-- The parts of a text are the pieces that it is put together from. -/
theorem parts_of_pieces (colon : Bool) {core : Text} (fragment : Text) (hcut : '#' ∉ core)
    (hcolon : colon = false → hasColon core = false) :
    let given := (if colon then [':'] else []) ++ core ++ (if fragment.isEmpty then [] else '#' :: fragment)
    hasColon given = colon ∧ writtenBody given = tidy core ∧ writtenFragment given = tidy fragment := by
  intro given
  have hrest : (cutFragment (tidy (core ++ if fragment.isEmpty then [] else '#' :: fragment))) =
      (tidy core, tidy fragment) := by
    cases fragment with
    | nil => simpa using cutFragment_tidy hcut
    | cons c s => exact cutFragment_tidy_hash (c :: s) hcut
  cases colon with
  | true =>
    have hgiven : given = ':' :: (core ++ if fragment.isEmpty then [] else '#' :: fragment) := rfl
    rw [hgiven, writtenBody, writtenFragment, behindColon_colon, hrest]
    exact ⟨hasColon_colon _, rfl, rfl⟩
  | false =>
    have hgiven : given = core ++ if fragment.isEmpty then [] else '#' :: fragment := rfl
    have hnone : hasColon given = false := by
      rw [hgiven]
      cases fragment with
      | nil => simpa using hcolon rfl
      | cons c s => exact hasColon_append_hash (c :: s) (hcolon rfl)
    rw [writtenBody, writtenFragment, behindColon_of_not_hasColon hnone, hgiven, hrest, ← hgiven]
    exact ⟨hnone, rfl, rfl⟩

/-- A colon behind something else is no leading colon. -/
theorem hasColon_append_colon {lead : Text} (rest : Text) (hcolon : ':' ∉ lead) (hne : tidy lead ≠ []) :
    hasColon (lead ++ ':' :: rest) = false := by
  rw [Bool.eq_false_iff, hasColon, Ne, startsWith_colon_iff, tidy_append_colon]
  rintro ⟨behind, hbehind⟩
  cases hstart : trimStart (spread lead) with
  | nil => exact hne (by rw [tidy_eq_trim_spread, trim, hstart]; rfl)
  | cons c s =>
    rw [hstart] at hbehind
    obtain ⟨rfl, -⟩ := List.cons.inj hbehind
    have hmem : ':' ∈ spread lead := (trimStart_suffix _).subset (hstart ▸ List.mem_cons_self)
    exact (mem_spread hmem).elim hcolon (by decide)

/-- A text that is put together from pieces is read if the body is legal and the name behind its prefix has no flaw. -/
theorem read_pieces {site : Site} {core main : Text} {lead : Lead} (colon : Bool) (fragment : Text) (fallback : Int)
    (hcut : '#' ∉ core) (hcolon : colon = false → hasColon core = false)
    (hlegal : ∀ c ∈ core, isIllegalInTitle c = false) (hresolve : resolveLead site (tidy core) = (lead, main))
    (hflaw : flaw? lead main (tidy fragment) = none) :
    read site ((if colon then [':'] else []) ++ core ++ (if fragment.isEmpty then [] else '#' :: fragment)) fallback =
      .ok { site
            namespaceId := (lead.destination site (if colon then site.mainId else fallback)).1
            main := applyCase site (lead.destination site (if colon then site.mainId else fallback)).1
              (lead.destination site (if colon then site.mainId else fallback)).2 main
            fragment := tidy fragment
            interwiki := (lead.destination site (if colon then site.mainId else fallback)).2
            leadingColon := colon } := by
  obtain ⟨hhas, hbody, hfragment⟩ := parts_of_pieces colon fragment hcut hcolon
  rw [read_eq_ok_iff, built, writtenName, hbody, hfragment, hhas, hresolve]
  refine ⟨fun c hc => ?_, hflaw, rfl⟩
  obtain hmem | rfl := mem_tidy hc
  · exact hlegal c hmem
  · decide

/-! ## Fragments -/

theorem startsWith_colon_append_hash (a b : Text) :
    startsWith [':'] (a ++ '#' :: b) = startsWith [':'] (trimEnd a) := by
  cases a with
  | nil => rfl
  | cons c s =>
    by_cases hcolon : c = ':'
    · rw [hcolon, trimEnd_cons s (by decide)]
      rfl
    · have hnone : startsWith [':'] (trimEnd (c :: s)) = false := by
        rw [Bool.eq_false_iff, Ne, startsWith_iff]
        intro hbegin
        have hhead : [':'] <+: c :: s := hbegin.trans (trimEnd_prefixOf _)
        exact hcolon (List.cons_prefix_cons.mp hhead).1.symm
      rw [hnone]
      simp [startsWith, List.isPrefixOf, Ne.symm hcolon]

theorem cutFragment_append_hash (a b : Text) : (cutFragment (a ++ '#' :: b)).1 = (cutFragment (trimEnd a)).1 := by
  obtain ⟨hnone, -⟩ | ⟨before, behind, hbefore, rfl, -⟩ := cutAtFirst_cases '#' a
  · have hkept : '#' ∉ trimEnd a := fun hmem => hnone ((trimEnd_prefixOf a).subset hmem)
    rw [cutFragment, cutAtFirst_append_cons b hnone, cutFragment, cutAtFirst_of_notMem hkept]
  · rw [List.append_assoc, List.cons_append, cutFragment, cutAtFirst_append_cons _ hbefore,
      trimEnd_append_cons before behind (by decide), cutFragment, cutAtFirst_append_cons _ hbefore]

/-- A fragment puts no colon in front, and takes none off. -/
theorem hasColon_hash (core fragment : Text) : hasColon (core ++ '#' :: fragment) = hasColon core := by
  rw [hasColon, tidy_append_hash, startsWith_colon_append_hash, hasColon, tidy_eq_trim_spread, trim]

/-- What is read as the name does not depend on the fragment behind it. -/
theorem writtenBody_hash (core fragment : Text) : writtenBody (core ++ '#' :: fragment) = writtenBody core := by
  have htidy : tidy core = trimEnd (trimStart (spread core)) := tidy_eq_trim_spread core
  have hcolon := hasColon_hash core fragment
  suffices hcut : ∃ a b, behindColon (core ++ '#' :: fragment) = a ++ '#' :: b ∧ behindColon core = trimEnd a by
    obtain ⟨a, b, hwhole, hcore⟩ := hcut
    rw [writtenBody, writtenBody, hwhole, hcore, cutFragment_append_hash]
  cases hhas : hasColon core with
  | false =>
    rw [hhas] at hcolon
    rw [behindColon_of_not_hasColon hcolon, behindColon_of_not_hasColon hhas, tidy_append_hash]
    exact ⟨_, _, rfl, htidy⟩
  | true =>
    obtain ⟨rest, hrest⟩ : ∃ rest, trimStart (spread core) = ':' :: rest := by
      rw [hasColon, htidy, startsWith_colon_iff] at hhas
      obtain ⟨behind, hbehind⟩ := hhas
      obtain ⟨tail, htail⟩ := trimEnd_prefixOf (trimStart (spread core))
      exact ⟨behind ++ tail, by rw [← htail, hbehind, List.cons_append]⟩
    rw [behindColon, hcolon, hhas, if_pos rfl, tidy_append_hash, hrest, behindColon, hhas, if_pos rfl, htidy, hrest,
      trimEnd_cons rest (by decide)]
    refine ⟨trimStart rest, trimEnd (spread fragment), trimStart_append_cons rest _ (by decide), ?_⟩
    rw [List.drop_one, List.tail_cons, trimStart_trimEnd, trim]

/-! ## Texts that are read alike -/

/-- Only the tidied text counts, and with a leading colon the namespace of the place does not. -/
theorem read_congr {site : Site} {given other : Text} {fallback fallback' : Int} {t : Title}
    (htidy : tidy given = tidy other) (hfallback : hasColon other = false → fallback = fallback')
    (h : read site given fallback = .ok t) : read site other fallback' = .ok t := by
  have hbody : behindColon given = behindColon other := by rw [behindColon, behindColon, hasColon, hasColon, htidy]
  have hbuilt : built site given fallback = built site other fallback' := by
    have hplace : (if hasColon given then site.mainId else fallback) =
        if hasColon other then site.mainId else fallback' := by
      rw [hasColon, htidy, ← hasColon]
      cases hcolon : hasColon other with
      | true => rfl
      | false => simp [hfallback hcolon]
    rw [built, built, writtenName, writtenName, writtenBody, writtenBody, writtenFragment, writtenFragment, hbody,
      hplace, hasColon, hasColon, htidy]
  rw [read_eq_ok_iff, writtenName, writtenBody, writtenFragment, hbody, hbuilt] at h
  exact read_eq_ok_iff.mpr h

end PageMarkup.Title
