import PageMarkup.Proofs.Title.Places

/-!
# Known prefixes

A text that begins with a prefix that the site knows is not read as the name of a page (`resolveLead_eq_page_iff`).
Prefixes are compared in lower case, before a name is capitalized. So capitalizing a name does not make it begin with a
known prefix (`beginsWithLead_of_capitalize`), unless it changes the lower case of the name: the title of a page hides a
prefix in exactly that case (`beginsWithLead_main_iff`). It happens with letters such as the dotless `ı`, whose upper
case is that of `i`.
-/
namespace PageMarkup.Title

open Text

/-- Whether the site knows the prefix as the name of a namespace or as the label of another wiki. -/
def KnowsLead (site : Site) (lead : Text) : Prop :=
  (site.namespaceId? lead).isSome = true ∨ (site.interwiki? lead).isSome = true

/-- Whether the text in front of the first colon is a prefix that the site knows. -/
def BeginsWithLead (site : Site) (s : Text) : Prop :=
  ∃ lead behind, s = lead ++ ':' :: behind ∧ ':' ∉ lead ∧ lead ≠ [] ∧ KnowsLead site lead

variable {site : Site} {s lead lead' : Text}

/-- Prefixes are compared without regard to case and to the blanks around them. -/
theorem knowsLead_congr (hlead : IsTidy lead) (hlead' : IsTidy lead') (h : lower (trim lead) = lower (trim lead')) :
    KnowsLead site lead ↔ KnowsLead site lead' := by
  have htidy : ∀ {l : Text}, IsTidy l → tidy l = trim l := by
    intro l hl
    rw [tidy_eq_trim_spread, spread_eq_self hl]
  have hname : normalizedName lead = normalizedName lead' := by
    rw [normalizedName_eq fun c hc => (hlead.plain c hc).2, normalizedName_eq fun c hc => (hlead'.plain c hc).2,
      htidy hlead, htidy hlead', h]
  rw [KnowsLead, KnowsLead, Site.namespaceId?, Site.namespaceId?, Site.interwiki?, Site.interwiki?, hname, h]

theorem resolveLead_eq_page_iff (hs : IsName s) : resolveLead site s = (.page, s) ↔ ¬ BeginsWithLead site s := by
  have hknown : ∀ {before : Text}, before <:+: s → (KnowsLead site before ↔ KnowsLead site (trimEnd before)) := by
    intro before hbefore
    have htidy := hs.tidy.within hbefore
    refine knowsLead_congr htidy (htidy.within (trimEnd_prefixOf _).isInfix) ?_
    rw [trim, trim, trimStart_trimEnd, trim, trimEnd_trimEnd]
  constructor
  · rintro hpage ⟨before, behind, hsplit, hbefore, hne, hknows⟩
    have hcut := cutLead_eq_some_iff.mpr ⟨before, behind, hsplit, hbefore, hne, rfl, rfl⟩
    obtain hid | hiw := (hknown ⟨[], ':' :: behind, by simp [hsplit]⟩).mp hknows
    · obtain ⟨id, hid⟩ := Option.isSome_iff_exists.mp hid
      simp [resolveLead, hcut, hid] at hpage
    · obtain ⟨iw, hiw⟩ := Option.isSome_iff_exists.mp hiw
      simp only [resolveLead, hcut, hiw] at hpage
      split at hpage <;> simp at hpage
  · intro hnone
    obtain hpage | ⟨lead, rest, hcut, hresolve⟩ := resolveLead_cases site s
    · exact hpage
    · obtain ⟨before, behind, hsplit, hbefore, hne, rfl, rfl⟩ := cutLead_eq_some_iff.mp hcut
      refine absurd ⟨before, behind, hsplit, hbefore, hne, ?_⟩ hnone
      refine (hknown ⟨[], ':' :: behind, by simp [hsplit]⟩).mpr ?_
      obtain ⟨id, hid, -⟩ | ⟨iw, -, hiw, -⟩ := hresolve
      · exact Or.inl (by rw [hid]; rfl)
      · exact Or.inr (by rw [hiw]; rfl)

/-! ## Capitalized names -/

/-- Capitalizing a name without changing its lower case does not make it begin with a known prefix. -/
theorem beginsWithLead_of_capitalize (hs : IsName s) (hlower : lower (capitalize s) = lower s)
    (h : BeginsWithLead site (capitalize s)) : BeginsWithLead site s := by
  cases s with
  | nil => exact h
  | cons c s =>
    obtain hsame | ⟨hc, hletters, -⟩ := upperChar_cases c
    · rwa [capitalize, hsame] at h
    · obtain ⟨lead, behind, hsplit, hcolon, -, hknows⟩ := h
      have hplain : ∀ d, isLetter d = true → d ≠ ':' ∧ isBlank d = false := by
        intro d hd
        constructor
        · rintro rfl
          revert hd
          decide
        · by_contra hblank
          simp [isLetter_of_isBlank (by simpa using hblank)] at hd
      -- The colon lies behind the letters of the upper case.
      obtain ⟨p, hlead, hrest⟩ : ∃ p, lead = upperChar c ++ p ∧ s = p ++ ':' :: behind := by
        obtain ⟨p, hlead, hrest⟩ | ⟨p, hupper, hrest⟩ := List.append_eq_append_iff.mp hsplit
        · exact ⟨p, hlead, hrest⟩
        · cases p with
          | nil => exact ⟨[], by simpa using hupper.symm, by simpa using hrest.symm⟩
          | cons d p =>
            obtain ⟨rfl, -⟩ := List.cons.inj hrest
            exact absurd rfl (hplain ':' (hletters ':' (by simp [hupper]))).1
      have htidy : IsTidy (c :: p) := hs.tidy.within ⟨[], ':' :: behind, by simp [hrest]⟩
      have htidy' : IsTidy lead :=
        (hs.tidy.respelled (respelled_capitalize _)).within ⟨[], ':' :: behind, by simpa using hsplit.symm⟩
      refine ⟨c :: p, behind, by rw [hrest]; rfl, ?_, by simp, (knowsLead_congr htidy htidy' ?_).mpr hknows⟩
      · intro hmem
        obtain hhead | hp := List.mem_cons.mp hmem
        · exact (hplain c hc).1 hhead.symm
        · exact hcolon (by simp [hlead, hp])
      · rw [hlead, trim_append_of_not_isBlank p (upperChar_ne_nil c) fun d hd => (hplain d (hletters d hd)).2,
          trim_cons_of_not_isBlank p (hplain c hc).2]
        exact (lower_upperChar_append (lower_upperChar_of_append hlower) _).symm

/-- The name of a page in an unnamed main namespace was written without a prefix. -/
theorem resolveLead_body_of_main (hsite : site.Made) (hmain : site.MainUnnamed) {given : Text} {fallback : Int}
    {t : Title} (hread : read site given fallback = .ok t) (hplace : t.namespaceId = site.mainId)
    (hlocal : t.interwiki = []) :
    resolveLead site (writtenBody given) = (.page, writtenBody given) := by
  have hbody := isName_body_of_read hread
  obtain ⟨hpage, -, -⟩ | ⟨lead, rest, hcut, ⟨hid, -, -⟩ | ⟨iw, -, hiw, -, hinterwiki, -⟩⟩ := place_of_read hread
  · exact hpage
  · obtain ⟨hlead, hne, -⟩ := isName_of_cutLead hbody hcut
    rw [hplace] at hid
    exact absurd (hsite.normalizedName_of_main hmain hid) (normalizedName_of_isName hlead hne).2
  · obtain ⟨hlead, hne, -⟩ := isName_of_cutLead hbody hcut
    rw [hlocal, hsite.label_of_interwiki? hiw, hlead.trimmed] at hinterwiki
    exact absurd ((respelled_lower lead).eq_nil_iff.mp hinterwiki.symm) hne

/-- A page of the main namespace has a name that begins with a known prefix only if capitalizing has changed the lower
case of the name, and made it begin with that prefix. -/
theorem beginsWithLead_main_iff (hsite : site.Made) (hmain : site.MainUnnamed) {given : Text} {fallback : Int}
    {t : Title} (hread : read site given fallback = .ok t) (hplace : t.namespaceId = site.mainId)
    (hlocal : t.interwiki = []) :
    BeginsWithLead site t.main ↔
      lower t.main ≠ lower (writtenName site given) ∧ BeginsWithLead site (capitalize (writtenName site given)) := by
  have hwritten := isName_writtenName_of_read hread
  have hnone : ¬ BeginsWithLead site (writtenName site given) := by
    have hpage := resolveLead_body_of_main hsite hmain hread hplace hlocal
    rw [writtenName, hpage]
    exact (resolveLead_eq_page_iff (isName_body_of_read hread)).mp hpage
  rw [main_of_read hread]
  obtain hkept | hcapital := applyCase_eq_or site t.namespaceId t.interwiki
  · rw [hkept]
    exact iff_of_false hnone fun h => h.1 rfl
  · rw [hcapital]
    exact ⟨fun h => ⟨fun hlower => hnone (beginsWithLead_of_capitalize hwritten hlower h), h⟩, fun h => h.2⟩

/-- A name whose prefix is unknown hides none. -/
theorem not_beginsWithLead_unknown : ∃ t, read .small "unknown:page".toList 0 = .ok t ∧ t.main = "Unknown:page".toList ∧
    ¬ BeginsWithLead .small t.main := by
  obtain ⟨t, hread, hplace, hmain, hlocal⟩ : ∃ t, read .small "unknown:page".toList 0 = .ok t ∧ t.namespaceId = 0 ∧
      t.main = "Unknown:page".toList ∧ t.interwiki = [] := exists_read_eq_ok (by decide +kernel)
  refine ⟨t, hread, hmain, fun hhides => ?_⟩
  obtain ⟨hlower, -⟩ := (beginsWithLead_main_iff Site.made_small Site.mainUnnamed_small hread
    (hplace.trans Site.mainId_small.symm) hlocal).mp hhides
  rw [hmain] at hlower
  exact hlower (by decide +kernel)

/-- The dotless letter of `ımage` becomes a capital `I`, and the page of that name hides the prefix of files. -/
theorem beginsWithLead_dotless : Site.small.Made ∧ Site.small.MainUnnamed ∧
    ∃ t, read .small "ımage:foo".toList Site.small.mainId = .ok t ∧ t.namespaceId = Site.small.mainId ∧
      t.interwiki = [] ∧ t.main = "Image:foo".toList ∧ BeginsWithLead .small t.main := by
  obtain ⟨t, hread, hplace, hmain, hlocal⟩ : ∃ t, read .small "ımage:foo".toList Site.small.mainId = .ok t ∧
      t.namespaceId = 0 ∧ t.main = "Image:foo".toList ∧ t.interwiki = [] := exists_read_eq_ok (by decide +kernel)
  refine ⟨Site.made_small, Site.mainUnnamed_small, t, hread, hplace.trans Site.mainId_small.symm, hlocal, hmain, ?_⟩
  rw [hmain]
  exact ⟨"Image".toList, "foo".toList, by decide +kernel, by decide, by decide, Or.inl (by decide +kernel)⟩

end PageMarkup.Title
