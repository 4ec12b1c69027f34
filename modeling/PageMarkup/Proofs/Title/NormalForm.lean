import PageMarkup.Proofs.Title.Places

/-!
# The normal form of titles

The checks of a title are made at different stages and on different texts: that of its characters on the whole body, and
those for signatures, relative paths and empty names behind the prefix, all of them before the name is capitalized. The
title that comes out passes all of them (`isNormal_of_ofValue`): the parts of a tidy text are tidy, and capitalizing
exchanges letters for letters.
-/
namespace PageMarkup.Title

open Text

/-- What titles are like that were read. -/
structure IsNormal (t : Title) : Prop where
  /-- No underscores, direction marks, number signs or illegal characters, and no blanks but single spaces inside. -/
  name : IsName t.main
  tidyFragment : IsTidy t.fragment
  trimmedFragment : trim t.fragment = t.fragment
  unsigned : includes ['~', '~', '~'] t.main = false
  absolute : isRelativePath t.main = false
  /-- A namespace of the site that asks for capitals has them. -/
  capital : t.interwiki = [] → ∀ space, t.site.namespace? t.namespaceId = some space → space.capitalizes = true →
    ∀ c rest, t.main = c :: rest → upperChar c = [c]
  /-- The prefix of another wiki is one that the site has, in lower case. -/
  external : t.interwiki ≠ [] → t.namespaceId = t.site.mainId ∧
    ∃ iw, Keyed.get? t.interwiki t.site.interwikis = some iw ∧ t.interwiki = lower iw.label
  present : t.main = [] → t.fragment ≠ [] ∨ t.interwiki ≠ []

variable {site : Site} {given : Text} {fallback : Int} {t : Title}

/-- The name of a title that was read is no signature and no relative path. -/
theorem unsigned_and_absolute_of_read (h : read site given fallback = .ok t) :
    includes ['~', '~', '~'] t.main = false ∧ isRelativePath t.main = false := by
  have hrespelled := respelled_applyCase site t.namespaceId t.interwiki (writtenName site given)
  rw [← main_of_read h] at hrespelled
  by_cases hnil : writtenName site given = []
  · rw [hrespelled.eq_nil_iff.mpr hnil]
    exact ⟨rfl, rfl⟩
  · obtain ⟨hsignature, hpath, -⟩ := (flaw?_of_ne_nil hnil).mp (read_eq_ok_iff.mp h).2.1
    refine ⟨unsigned_of_respelled hrespelled hsignature, ?_⟩
    rw [Bool.eq_false_iff] at hpath ⊢
    exact mt (isRelativePath_of_respelled hrespelled) hpath

/-- The name of a page begins with a capital in a namespace that asks for it. -/
theorem capital_of_read (h : read site given fallback = .ok t) (hlocal : t.interwiki = []) {space : Namespace}
    (hspace : site.namespace? t.namespaceId = some space) (hcase : space.capitalizes = true) {c : Char} {rest : Text}
    (hmain : t.main = c :: rest) : upperChar c = [c] := by
  have hcapital : t.main = capitalize (writtenName site given) := by
    rw [main_of_read h, applyCase, hlocal, hspace]
    simp [hcase]
  rw [hmain] at hcapital
  cases hname : writtenName site given with
  | nil => simp [hname, capitalize] at hcapital
  | cons d behind =>
    obtain ⟨u, us, hupper⟩ := List.exists_cons_of_ne_nil (upperChar_ne_nil d)
    rw [hname, capitalize, hupper, List.cons_append] at hcapital
    rw [(List.cons.inj hcapital).1]
    exact upperChar_head hupper

theorem isNormal_of_read (hsite : site.Made) (h : read site given fallback = .ok t) : t.IsNormal := by
  have hown := site_of_read h
  have hfragment := tidy_fragment_of_read h
  obtain ⟨hunsigned, habsolute⟩ := unsigned_and_absolute_of_read h
  refine ⟨isName_main_of_read h, hfragment ▸ isTidy_tidy _, hfragment ▸ trim_tidy _, hunsigned, habsolute, ?_, ?_, ?_⟩
  · intro hlocal space hspace hcase c rest hmain
    exact capital_of_read h hlocal (hown ▸ hspace) hcase hmain
  · intro hexternal
    obtain ⟨hname, -, -, ⟨iw, hiw, hlabel⟩, hplace⟩ := external_of_read hsite h hexternal
    have hlower : lower t.interwiki = t.interwiki := by rw [← hlabel, lower_lower]
    rw [Site.interwiki?, hname.trimmed, hlower] at hiw
    rw [hown]
    exact ⟨hplace, iw, hiw, hlabel.symm⟩
  · intro hnil
    by_cases hlocal : t.interwiki = []
    · exact Or.inl (fragment_of_read hsite h hlocal hnil)
    · exact Or.inr hlocal

/-- Every title that a value denotes is in normal form. -/
theorem isNormal_of_ofValue {site : Option Site} {v : Value} {fallback : Option Int} {t : Title}
    (hsite : t.site.Made) (h : ofValue site v fallback = .ok t) : t.IsNormal := by
  unfold ofValue at h
  split at h
  · exact isNormal_of_read (site_of_read h ▸ hsite) h
  · split at h
    · exact isNormal_of_read (site_of_read h ▸ hsite) h
    · simp at h
  · simp at h

/-- A title of another wiki, with nothing but a prefix in odd spelling and a fragment in place of a name. -/
theorem isNormal_of_ofValue_external :
    ∃ t, ofValue (some .small) (.text " FR_:  #_top ~~~".toList) none = .ok t ∧ t.IsNormal := by
  have hread : read .small " FR_:  #_top ~~~".toList Site.small.mainId =
      .ok (built .small " FR_:  #_top ~~~".toList Site.small.mainId) := read_eq_built _ (by decide +kernel)
  have hvalue : ofValue (some .small) (.text " FR_:  #_top ~~~".toList) none =
      .ok (built .small " FR_:  #_top ~~~".toList Site.small.mainId) := hread
  exact ⟨_, hvalue, isNormal_of_ofValue Site.made_small hvalue⟩

end PageMarkup.Title
