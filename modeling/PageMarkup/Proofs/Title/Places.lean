import PageMarkup.Proofs.Title.Names

/-!
# Titles that were read

Where a title that was read lies, and what its parts are like: its name is one in the sense of `IsName`, its fragment is
tidy, and the prefix of another wiki is known by that wiki's label in lower case (`external_of_read`).
-/
namespace PageMarkup.Title

open Text

variable {site : Site} {given : Text} {fallback : Int} {t : Title}

theorem site_of_read (h : read site given fallback = .ok t) : t.site = site := by
  rw [(read_eq_ok_iff.mp h).2.2, built]

theorem isName_body_of_read (h : read site given fallback = .ok t) : IsName (writtenBody given) :=
  isName_writtenBody (read_eq_ok_iff.mp h).1

theorem main_of_read (h : read site given fallback = .ok t) :
    t.main = applyCase site t.namespaceId t.interwiki (writtenName site given) := by
  rw [(read_eq_ok_iff.mp h).2.2, built]

theorem isName_writtenName_of_read (h : read site given fallback = .ok t) : IsName (writtenName site given) :=
  isName_resolveLead (isName_body_of_read h)

theorem isName_main_of_read (h : read site given fallback = .ok t) : IsName t.main := by
  rw [main_of_read h]
  exact (isName_writtenName_of_read h).respelled (respelled_applyCase _ _ _ _)

theorem tidy_fragment_of_read (h : read site given fallback = .ok t) : tidy t.fragment = t.fragment := by
  rw [(read_eq_ok_iff.mp h).2.2]
  exact tidy_writtenFragment given

/-- A title was written without a prefix, behind the name of its namespace, or behind the prefix of another wiki. -/
theorem place_of_read (h : read site given fallback = .ok t) :
    (resolveLead site (writtenBody given) = (.page, writtenBody given) ∧ t.interwiki = [] ∧
        t.namespaceId = if t.leadingColon then site.mainId else fallback) ∨
      ∃ lead rest, cutLead (writtenBody given) = some (lead, rest) ∧
        ((site.namespaceId? lead = some t.namespaceId ∧ t.interwiki = [] ∧
            resolveLead site (writtenBody given) = (.ofNamespace t.namespaceId, rest)) ∨
          ∃ iw, site.namespaceId? lead = none ∧ site.interwiki? lead = some iw ∧ t.namespaceId = site.mainId ∧
            t.interwiki = lower iw.label ∧
            resolveLead site (writtenBody given) = (.ofInterwiki (lower iw.label), rest)) := by
  rw [(read_eq_ok_iff.mp h).2.2]
  obtain hpage | ⟨lead, rest, hcut, ⟨id, hid, hresolve⟩ | ⟨iw, hid, hiw, hresolve⟩⟩ :=
    resolveLead_cases site (writtenBody given)
  · refine Or.inl ⟨hpage, ?_, ?_⟩ <;> simp only [built, hpage, Lead.destination]
  · refine Or.inr ⟨lead, rest, hcut, Or.inl ?_⟩
    simp only [built, hresolve, Lead.destination]
    exact ⟨hid, trivial, trivial⟩
  · refine Or.inr ⟨lead, rest, hcut, Or.inr ⟨iw, hid, hiw, ?_⟩⟩
    simp only [built, hresolve, Lead.destination]
    exact ⟨trivial, trivial, trivial⟩

/-- The prefix of another wiki is a prefix that the site knows it by, and no namespace has that name. -/
theorem external_of_read (hsite : site.Made) (h : read site given fallback = .ok t) (hexternal : t.interwiki ≠ []) :
    IsName t.interwiki ∧ ':' ∉ t.interwiki ∧ site.namespaceId? t.interwiki = none ∧
      (∃ iw, site.interwiki? t.interwiki = some iw ∧ lower iw.label = t.interwiki) ∧ t.namespaceId = site.mainId := by
  obtain ⟨-, hlocal, -⟩ | ⟨lead, rest, hcut, ⟨-, hlocal, -⟩ | ⟨iw, hid, hiw, hmain, hinterwiki, -⟩⟩ := place_of_read h
  · exact absurd hlocal hexternal
  · exact absurd hlocal hexternal
  · obtain ⟨hlead, hne, hcolon, -, -⟩ := isName_of_cutLead (isName_body_of_read h) hcut
    have hlabel : t.interwiki = lower lead := by
      rw [hinterwiki, hsite.label_of_interwiki? hiw, hlead.trimmed]
    have hrespelled := respelled_lower lead
    have hname : IsName t.interwiki := hlabel ▸ hlead.respelled hrespelled
    have hsame : normalizedName t.interwiki = normalizedName lead := by
      rw [(normalizedName_of_isName hname hexternal).1, (normalizedName_of_isName hlead hne).1, hlabel, lower_lower]
    have hiw' : site.interwiki? t.interwiki = some iw := by
      rw [Site.interwiki?, hname.trimmed, hlabel, lower_lower]
      rw [Site.interwiki?, hlead.trimmed] at hiw
      exact hiw
    refine ⟨hname, ?_, ?_, ⟨iw, hiw', hinterwiki.symm⟩, hmain⟩
    · rw [hlabel]
      exact fun hmem => (hrespelled.mem_or_isLetter hmem).elim hcolon (by decide)
    · rw [Site.namespaceId?, hsame]
      exact hid

/-- The name of a title has no flaw, unless capitalizing made it too long. -/
theorem flaw?_of_read (h : read site given fallback = .ok t) (hlength : utf8Length t.main ≤ maxTitleBytes)
    (hne : t.main ≠ []) (lead : Lead) (fragment : Text) : flaw? lead t.main fragment = none := by
  have hflaw := (read_eq_ok_iff.mp h).2.1
  rw [main_of_read h] at hlength hne ⊢
  exact flaw?_of_respelled (respelled_applyCase _ _ _ _) hne hflaw hlength

/-- A title of the site without a name has a fragment. -/
theorem fragment_of_read (hsite : site.Made) (h : read site given fallback = .ok t) (hlocal : t.interwiki = [])
    (hnil : t.main = []) : t.fragment ≠ [] := by
  have hname : writtenName site given = [] := by
    have hrespelled := respelled_applyCase site t.namespaceId t.interwiki (writtenName site given)
    rw [← main_of_read h] at hrespelled
    exact hrespelled.eq_nil_iff.mp hnil
  obtain ⟨-, hflaw, ht⟩ := read_eq_ok_iff.mp h
  have hfragment : t.fragment = writtenFragment given := by rw [ht, built]
  obtain ⟨hpage, -, -⟩ | ⟨lead, rest, hcut, ⟨-, -, hresolve⟩ | ⟨iw, -, hiw, -, hinterwiki, -⟩⟩ := place_of_read h
  · rw [hpage, hname] at hflaw
    rw [hfragment]
    rintro hnone
    simp [hnone, flaw?] at hflaw
  · rw [hresolve, hname] at hflaw
    simp [flaw?] at hflaw
  · obtain ⟨hlead, hne, -⟩ := isName_of_cutLead (isName_body_of_read h) hcut
    rw [hlocal, hsite.label_of_interwiki? hiw, hlead.trimmed] at hinterwiki
    exact absurd ((respelled_lower lead).eq_nil_iff.mp hinterwiki.symm) hne

end PageMarkup.Title
