import PageMarkup.Proofs.Outcome
import PageMarkup.Proofs.Title.Places
import PageMarkup.Title.Check

/-!
# Accepted titles

What a title that is accepted for a template or for a link is read from, and on which site: on the site that is given,
and if there is none on that of the title that is read again. A text is refused without a site.
-/
namespace PageMarkup.Title

open Text

variable {site : Site} {t u : Title}

/-! ## Templates -/

/-- A title that was read is accepted for a template if it names a page, on a wiki whose pages can be transcluded. -/
theorem acceptance_eq_ok_iff {title : Title} {unnamed untranscludable : Fault} :
    (if title.main.isEmpty then .error unnamed
      else if title.isExternal && !title.isTranscludable then .error untranscludable
      else .ok title : Except Fault Title) = .ok u ↔
      title = u ∧ u.main ≠ [] ∧ (u.isExternal = true → u.isTranscludable = true) := by
  by_cases hmain : title.main = []
  · rw [if_pos (List.isEmpty_iff.mpr hmain)]
    refine iff_of_false (by simp) ?_
    rintro ⟨rfl, hne, -⟩
    exact hne hmain
  · rw [if_neg (mt List.isEmpty_iff.mp hmain)]
    cases hexternal : title.isExternal && !title.isTranscludable with
    | true =>
      obtain ⟨hout, hkept⟩ : title.isExternal = true ∧ title.isTranscludable = false := by simpa using hexternal
      refine iff_of_false (by simp) ?_
      rintro ⟨rfl, -, hallowed⟩
      simp [hallowed hout] at hkept
    | false =>
      have hallowed : title.isExternal = true → title.isTranscludable = true := by simpa using hexternal
      constructor
      · intro h
        obtain rfl := Except.ok.inj h
        exact ⟨rfl, hmain, hallowed⟩
      · rintro ⟨rfl, -⟩
        rfl

/-- A text is accepted for a template if no hook begins it and it is read, in the namespace of templates, as a title
of a page that can be transcluded. -/
theorem transcluded_text_eq_ok_iff {s : Text} : transcluded (some site) (.text s) = .ok u ↔
    site.hookTable.verify s = none ∧ read site s site.templateId = .ok u ∧ u.main ≠ [] ∧
      (u.isExternal = true → u.isTranscludable = true) := by
  have hfallback : ∀ other, tidy other = tidy s → hasColon other = false →
      (if startsWith [':'] (clean s) then site.mainId else site.templateId) = site.templateId := by
    intro other htidy hnone
    rw [if_neg]
    rw [startsWith_colon_iff]
    rintro ⟨rest, hrest⟩
    have hhas := hasColon_colon rest
    rw [← hrest, hasColon, tidy_clean, ← htidy, ← hasColon, hnone] at hhas
    simp at hhas
  have hread : ∀ v, read site (clean s) (if startsWith [':'] (clean s) then site.mainId else site.templateId) = .ok v ↔
      read site s site.templateId = .ok v :=
    fun v => ⟨read_congr (tidy_clean s) (hfallback s rfl),
      read_congr (tidy_clean s).symm fun h => (hfallback _ (tidy_clean s) h).symm⟩
  cases hverify : site.hookTable.verify s with
  | some verified => simp [transcluded, hverify, bind, Except.bind]
  | none =>
    simp only [transcluded, hverify, bind, Except.bind, Option.isSome_none, Bool.false_eq_true, if_false, true_and]
    rw [← hread]
    cases read site (clean s) (if startsWith [':'] (clean s) then site.mainId else site.templateId) with
    | error fault => simp [Functor.map, Except.map]
    | ok title =>
      simp only [Functor.map, Except.map, Except.ok.injEq]
      rw [acceptance_eq_ok_iff]

/-- What is accepted for a template was read from some text, on the site if there is one. -/
theorem read_of_transcluded {site : Option Site} {v : Value} (h : transcluded site v = .ok t) :
    (∃ given fallback, read t.site given fallback = .ok t) ∧ site.getD t.site = t.site ∧ t.main ≠ [] ∧
      (t.isExternal = true → t.isTranscludable = true) := by
  have hown : ∀ {site : Site} {given : Text} {fallback : Int}, read site given fallback = .ok t →
      ∃ given fallback, read t.site given fallback = .ok t :=
    fun hread => ⟨_, _, (site_of_read hread).symm ▸ hread⟩
  cases v with
  | text s =>
    cases site with
    | none => simp [transcluded, bind, Except.bind] at h
    | some site =>
      obtain ⟨-, hread, hne, hexternal⟩ := transcluded_text_eq_ok_iff.mp h
      exact ⟨hown hread, (site_of_read hread).symm, hne, hexternal⟩
  | leaf a =>
    cases a with
    | title w =>
      simp only [transcluded, bind, Except.bind] at h
      split at h
      · simp at h
      · cases hread : ofValue (some (site.getD w.site)) (.leaf (.title w)) with
        | error fault => simp [hread, Functor.map, Except.map] at h
        | ok title =>
          simp only [hread, Functor.map, Except.map] at h
          rw [acceptance_eq_ok_iff] at h
          obtain ⟨rfl, hne, hexternal⟩ := h
          have hread' : read (site.getD w.site) (w.render true true) (site.getD w.site).mainId = .ok title := by
            rw [← hread, ofValue]
            simp only [Option.getD_some, Option.getD_none]
          refine ⟨hown hread', ?_, hne, hexternal⟩
          rw [site_of_read hread']
          cases site <;> rfl
    | _ => simp [transcluded, bind, Except.bind] at h
  | _ => simp [transcluded, bind, Except.bind] at h

theorem site_of_transcluded {v : Value} (h : transcluded (some site) v = .ok t) : t.site = site :=
  (read_of_transcluded h).2.1.symm

theorem site_of_transcluded_text {site : Option Site} {s : Text} (h : transcluded site (.text s) = .ok t) :
    site = some t.site := by
  cases site with
  | none => simp [transcluded, bind, Except.bind] at h
  | some site => rw [site_of_transcluded h]

/-! ## Links -/

/-- What is accepted for a link was read from some text. -/
theorem read_of_linked {v : Value} (h : linked (some site) v = .ok t) :
    ∃ given fallback, read site given fallback = .ok t := by
  cases v with
  | text s => exact ⟨s, site.mainId, h⟩
  | leaf a =>
    cases a with
    | title w => exact ⟨w.render true true, site.mainId, h⟩
    | _ => simp [linked] at h
  | _ => simp [linked] at h

/-- What is accepted for a link was read on its own site, whether a site was given or not. -/
theorem exists_read_of_linked {site : Option Site} {v : Value} (h : linked site v = .ok t) :
    ∃ given fallback, read t.site given fallback = .ok t := by
  have hown : ∀ {site : Site}, linked (some site) v = .ok t → ∃ given fallback, read t.site given fallback = .ok t := by
    intro site hlinked
    obtain ⟨given, fallback, hread⟩ := read_of_linked hlinked
    exact ⟨given, fallback, (site_of_read hread).symm ▸ hread⟩
  cases site with
  | some site => exact hown h
  | none =>
    cases v with
    | leaf a =>
      cases a with
      | title w => exact @hown w.site h
      | _ => simp [linked] at h
    | _ => simp [linked] at h

theorem site_of_linked {v : Value} (h : linked (some site) v = .ok t) : t.site = site := by
  obtain ⟨given, fallback, hread⟩ := read_of_linked h
  exact site_of_read hread

theorem site_of_linked_text {site : Option Site} {s : Text} (h : linked site (.text s) = .ok t) :
    site = some t.site := by
  cases site with
  | none => simp [linked] at h
  | some site => rw [site_of_linked h]

theorem linked_of_targeted {site : Option Site} {v : Value} (h : targeted site v = .ok t) : linked site v = .ok t := by
  obtain ⟨title, hlinked, h⟩ := Outcome.bind_eq_ok.mp h
  split at h
  · simp at h
  · rw [hlinked, h]

theorem linked_of_embedded {site : Option Site} {v : Value} (h : embedded site v = .ok t) : linked site v = .ok t := by
  obtain ⟨title, hlinked, h⟩ := Outcome.bind_eq_ok.mp h
  split at h
  · simp at h
  · split at h
    · simp at h
    · split at h
      · simp at h
      · rw [hlinked, h]

end PageMarkup.Title
