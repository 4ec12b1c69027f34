import PageMarkup.Proofs.Title.KnownLead
import PageMarkup.Title.Basic

/-!
# Reading a title back

On a site whose namespaces can be told apart by their names, a title that is rendered in full is read as that title
(`ofValue_of_read`): its prefix is recognized again, nothing behind it is taken for another one, and a name that was
capitalized is capitalized already.
-/
namespace PageMarkup

/-- Whether no character of the text means anything else than itself in front of a title. -/
def IsPlainName (name : Text) : Prop :=
  ∀ c ∈ name, c ≠ ':' ∧ c ≠ '#' ∧ isDirectionMark c = false ∧ isIllegalInTitle c = false

instance (name : Text) : Decidable (IsPlainName name) := List.decidableBAll _ name

/-- Whether the text can be written in front of a title and means a name there. -/
structure IsNamespaceName (name : Text) : Prop where
  visible : ∃ c ∈ name, isBlank c = false ∧ c ≠ '_'
  plain : IsPlainName name

/-- Whether the main namespace has no name, and every other namespace has one that leads back to it. -/
structure Site.WellNamed (site : Site) : Prop where
  main : site.MainUnnamed
  named : ∀ id space, site.namespace? id = some space → id ≠ site.mainId →
    ∃ name, space.name = some name ∧ IsNamespaceName name ∧ site.namespaceId? name = some id

namespace Title

open Text

variable {site : Site} {given name : Text} {fallback : Int} {t : Title}

theorem tidy_ne_nil (h : IsNamespaceName name) : tidy name ≠ [] := by
  obtain ⟨c, hc, hblank, hline⟩ := h.visible
  obtain ⟨before, behind, rfl⟩ := List.append_of_mem hc
  rw [tidy_append_cons before behind hblank hline (h.plain c hc).2.2.1]
  simp

/-- A namespace is found by its name as it is tidied. -/
theorem namespaceId?_tidy (h : IsPlainName name) : site.namespaceId? (tidy name) = site.namespaceId? name := by
  rw [Site.namespaceId?, normalizedName_tidy, ← normalizedName_eq fun c hc => (h c hc).2.2.1, Site.namespaceId?]

/-- A prefix in front of a name is neither cut off with a fragment nor illegal. -/
theorem legal_append_colon {lead main : Text} (hlead : ∀ c ∈ lead, c ≠ '#' ∧ isIllegalInTitle c = false)
    (hmain : IsName main) :
    '#' ∉ lead ++ ':' :: main ∧ ∀ c ∈ lead ++ ':' :: main, isIllegalInTitle c = false := by
  constructor
  · intro hmem
    obtain hmem | hmem := List.mem_append.mp hmem
    · exact (hlead _ hmem).1 rfl
    · exact hmain.uncut (by simpa using hmem)
  · intro c hc
    obtain hc | hc := List.mem_append.mp hc
    · exact (hlead c hc).2
    · obtain rfl | hc := List.mem_cons.mp hc
      · decide
      · exact hmain.legal c hc

theorem IsName.uncut_and_legal {s : Text} (hs : IsName s) : ∀ c ∈ s, c ≠ '#' ∧ isIllegalInTitle c = false :=
  fun c hc => ⟨fun heq => hs.uncut (heq ▸ hc), hs.legal c hc⟩

/-! ## Rendered titles -/

/-- A title is rendered as a colon, its body and its fragment. -/
theorem render_eq_pieces (t : Title) : t.render true true =
    (if t.leadingColon then [':'] else []) ++ t.render false false ++
      (if t.fragment.isEmpty then [] else '#' :: t.fragment) := by
  cases hcolon : t.leadingColon <;> cases hfragment : t.fragment.isEmpty <;> simp [render, hcolon, hfragment]

theorem render_of_external (hexternal : t.interwiki ≠ []) (hmain : t.namespaceId = t.site.mainId) :
    t.render false false = t.interwiki ++ ':' :: t.main := by
  simp [render, isExternal, namespaceName, hexternal, hmain, joinWith]

theorem render_of_local (hlocal : t.interwiki = []) : t.render false false =
    if t.namespaceName.isEmpty then t.main else t.namespaceName ++ ':' :: t.main := by
  cases hname : t.namespaceName.isEmpty <;> simp [render, isExternal, hlocal, hname, joinWith]

/-- A body that is read as the title's name in the title's place is read as the title. -/
theorem read_render_of_resolve (hread : read site given fallback = .ok t) {lead : Lead}
    (hcut : '#' ∉ t.render false false) (hcolon : t.leadingColon = false → hasColon (t.render false false) = false)
    (hlegal : ∀ c ∈ t.render false false, isIllegalInTitle c = false)
    (hresolve : resolveLead site (tidy (t.render false false)) = (lead, t.main))
    (hflaw : flaw? lead t.main t.fragment = none)
    (hplace : lead.destination site site.mainId = (t.namespaceId, t.interwiki)) :
    read site (t.render true true) site.mainId = .ok t := by
  have hfragment := tidy_fragment_of_read hread
  have hcased : applyCase site t.namespaceId t.interwiki t.main = t.main := by
    rw [main_of_read hread, applyCase_applyCase]
  have hsite := site_of_read hread
  rw [render_eq_pieces,
    read_pieces t.leadingColon t.fragment site.mainId hcut hcolon hlegal hresolve (hfragment.symm ▸ hflaw)]
  simp only [ite_self, hplace, hfragment, hcased]
  rw [← hsite]

/-- The prefix of another wiki is recognized in front of the name. -/
theorem resolveLead_external (hsite : site.Made) (hread : read site given fallback = .ok t)
    (hexternal : t.interwiki ≠ []) :
    resolveLead site (tidy (t.interwiki ++ ':' :: t.main)) = (.ofInterwiki t.interwiki, t.main) := by
  obtain ⟨hname, hcolon, hid, ⟨iw, hiw, hlabel⟩, -⟩ := external_of_read hsite hread hexternal
  have htidy : tidy t.interwiki ≠ [] := by rwa [hname.tidy_eq]
  rw [resolveLead, cutLead_append_colon hcolon htidy, hname.tidy_eq, (isName_main_of_read hread).tidy_eq]
  simp [hid, hiw, hlabel]

/-- The name of a namespace is recognized in front of the name. -/
theorem resolveLead_named (hread : read site given fallback = .ok t) (hname : IsPlainName name) (htidy : tidy name ≠ [])
    (hid : site.namespaceId? name = some t.namespaceId) :
    resolveLead site (tidy (name ++ ':' :: t.main)) = (.ofNamespace t.namespaceId, t.main) := by
  have hcolon : ':' ∉ name := fun hmem => (hname _ hmem).1 rfl
  rw [resolveLead, cutLead_append_colon hcolon htidy, (isName_main_of_read hread).tidy_eq]
  dsimp only
  rw [namespaceId?_tidy hname, hid]

/-- The name behind the prefix of another wiki is read as it is. -/
theorem read_render_of_external (hsite : site.Made) (hread : read site given fallback = .ok t)
    (hexternal : t.interwiki ≠ []) (hlength : utf8Length t.main ≤ maxTitleBytes) :
    read site (t.render true true) site.mainId = .ok t := by
  obtain ⟨hname, hcolon, -, -, hmain⟩ := external_of_read hsite hread hexternal
  obtain ⟨hcut, hlegal⟩ := legal_append_colon hname.uncut_and_legal (isName_main_of_read hread)
  have hcore := render_of_external hexternal ((site_of_read hread).symm ▸ hmain)
  refine read_render_of_resolve hread (hcore ▸ hcut) ?_ (hcore ▸ hlegal)
    (hcore ▸ resolveLead_external hsite hread hexternal) ?_ (by rw [Lead.destination, hmain])
  · rw [hcore]
    exact fun _ => hasColon_append_colon t.main hcolon (by rwa [hname.tidy_eq])
  · by_cases hnil : t.main = []
    · simp [flaw?, hnil, hexternal]
    · exact flaw?_of_read hread hlength hnil _ _

/-- The name behind a name of its namespace is read as it is. -/
theorem read_render_of_named (hread : read site given fallback = .ok t) (hlocal : t.interwiki = [])
    (hname : IsNamespaceName t.namespaceName) (hid : site.namespaceId? t.namespaceName = some t.namespaceId)
    (hne : t.main ≠ []) (hlength : utf8Length t.main ≤ maxTitleBytes) :
    read site (t.render true true) site.mainId = .ok t := by
  have htidy := tidy_ne_nil hname
  obtain ⟨hcut, hlegal⟩ := legal_append_colon (fun c hc => ⟨(hname.plain c hc).2.1, (hname.plain c hc).2.2.2⟩)
    (isName_main_of_read hread)
  have hcore : t.render false false = t.namespaceName ++ ':' :: t.main := by
    obtain ⟨c, hc, -⟩ := hname.visible
    rw [render_of_local hlocal, if_neg]
    simp [List.ne_nil_of_mem hc]
  refine read_render_of_resolve hread (hcore ▸ hcut) ?_ (hcore ▸ hlegal)
    (hcore ▸ resolveLead_named hread hname.plain htidy hid) (flaw?_of_read hread hlength hne _ _)
    (by rw [Lead.destination, hlocal])
  rw [hcore]
  exact fun _ => hasColon_append_colon t.main (fun hmem => (hname.plain _ hmem).1 rfl) htidy

/-- A name without a colon in front has none that is taken for one. -/
theorem hasColon_main_of_page (hread : read site given fallback = .ok t)
    (hpage : resolveLead site (writtenBody given) = (.page, writtenBody given)) (hcolon : t.leadingColon = false) :
    hasColon t.main = false := by
  have hgiven : hasColon given = false := by
    rw [← hcolon, (read_eq_ok_iff.mp hread).2.2]
    rfl
  rw [Bool.eq_false_iff, Ne, hasColon, startsWith_iff, (isName_main_of_read hread).tidy_eq, main_of_read hread,
    writtenName, hpage]
  intro hmain
  have hbody : [':'] <+: writtenBody given := (respelled_applyCase _ _ _ _).prefixOf (forall_not_isLetter (by decide)) hmain
  have hbegin := hbody.trans (writtenBody_prefixOf given)
  rw [behindColon_of_not_hasColon hgiven, ← startsWith_iff] at hbegin
  rw [hasColon, hbegin] at hgiven
  simp at hgiven

/-- The name of a page of the main namespace is read as it is, if capitalizing has not changed its lower case. -/
theorem read_render_of_main (hsite : site.Made) (hmain : site.MainUnnamed) (hread : read site given fallback = .ok t)
    (hlocal : t.interwiki = []) (hplace : t.namespaceId = site.mainId) (hlength : utf8Length t.main ≤ maxTitleBytes)
    (hlower : lower t.main = lower (writtenName site given)) : read site (t.render true true) site.mainId = .ok t := by
  have hbody := isName_main_of_read hread
  have hcore : t.render false false = t.main := by
    have hnone : t.namespaceName = [] := by rw [namespaceName, if_pos ((site_of_read hread).symm ▸ hplace)]
    rw [render_of_local hlocal, hnone]
    rfl
  have hpage := resolveLead_body_of_main hsite hmain hread hplace hlocal
  have hresolve : resolveLead site (tidy (t.render false false)) = (.page, t.main) := by
    rw [hcore, hbody.tidy_eq, resolveLead_eq_page_iff hbody, beginsWithLead_main_iff hsite hmain hread hplace hlocal]
    exact fun h => h.1 hlower
  refine read_render_of_resolve hread (hcore ▸ hbody.uncut) ?_ (hcore ▸ hbody.legal) hresolve ?_ ?_
  · rw [hcore]
    exact hasColon_main_of_page hread hpage
  · by_cases hnil : t.main = []
    · have hfragment := fragment_of_read hsite hread hlocal hnil
      simp [flaw?, hnil, hfragment]
    · exact flaw?_of_read hread hlength hnil _ _
  · rw [Lead.destination, hplace, hlocal]

/-! ## Reading back -/

/-- A title of a known namespace lies in the main namespace or in one that the site has. -/
theorem namespace?_of_read (hsite : site.Made) (hread : read site given fallback = .ok t)
    (hfallback : fallback = site.mainId ∨ (site.namespace? fallback).isSome = true) :
    t.namespaceId = site.mainId ∨ ∃ space, site.namespace? t.namespaceId = some space := by
  obtain ⟨-, -, hid⟩ | ⟨lead, rest, -, ⟨hid, -, -⟩ | ⟨-, -, -, hmain, -, -⟩⟩ := place_of_read hread
  · split at hid
    · exact Or.inl hid
    · rw [hid]
      exact hfallback.imp_right Option.isSome_iff_exists.mp
  · obtain ⟨space, hspace, -⟩ := hsite.exists_of_namespaceId? hid
    exact Or.inr ⟨space, hspace⟩
  · exact Or.inl hmain

/-- A title is read from what it is rendered as, with spaces or with underscores, and from itself. -/
theorem ofValue_of_read (hsite : site.Made) (hnamed : site.WellNamed) (hread : read site given fallback = .ok t)
    (hfallback : fallback = site.mainId ∨ (site.namespace? fallback).isSome = true)
    (hlength : utf8Length t.main ≤ maxTitleBytes) (hne : t.main = [] → t.namespaceId = site.mainId)
    (hlower : t.namespaceId = site.mainId → t.interwiki = [] → lower t.main = lower (writtenName site given)) :
    ofValue none (.leaf (.title t)) = .ok t ∧
      ofValue (some site) (.text (t.render true true)) = .ok t ∧
      ofValue (some site) (.text (t.renderKey true true)) = .ok t := by
  have hback : read site (t.render true true) site.mainId = .ok t := by
    by_cases hlocal : t.interwiki = []
    · by_cases hplace : t.namespaceId = site.mainId
      · exact read_render_of_main hsite hnamed.main hread hlocal hplace hlength (hlower hplace hlocal)
      · obtain hmain | ⟨space, hspace⟩ := namespace?_of_read hsite hread hfallback
        · exact absurd hmain hplace
        · obtain ⟨name, hspaceName, hname, hid⟩ := hnamed.named _ space hspace hplace
          have hname' : t.namespaceName = name := by
            rw [namespaceName, site_of_read hread, if_neg hplace, hspace]
            simp [hspaceName]
          rw [← hname'] at hname hid
          exact read_render_of_named hread hlocal hname hid (mt hne hplace) hlength
    · exact read_render_of_external hsite hread hlocal hlength
  have hkey : read site (t.renderKey true true) site.mainId = .ok t := by
    have htidy : tidy (t.render true true) = tidy (t.renderKey true true) := by rw [renderKey, tidy_replaceChar]
    exact read_congr htidy (fun _ => rfl) hback
  have hself : ofValue none (.leaf (.title t)) = read site (t.render true true) site.mainId := by
    rw [← site_of_read hread]
    rfl
  exact ⟨hself.trans hback, hback, hkey⟩

theorem wellNamed_small : Site.small.WellNamed := by
  refine ⟨Site.mainUnnamed_small, fun id space hspace hid => ?_⟩
  rw [Site.mainId_small] at hid
  have hmem := Keyed.mem_of_get? hspace
  simp only [Site.small, Site.ofParts, List.foldl_cons, List.foldl_nil, Keyed.put, Int.reduceEq, if_false,
    List.mem_cons, Prod.mk.injEq, List.not_mem_nil, or_false] at hmem
  obtain ⟨rfl, -⟩ | ⟨rfl, rfl⟩ | ⟨rfl, rfl⟩ := hmem
  · exact absurd rfl hid
  · exact ⟨"File".toList, rfl, ⟨⟨'F', by decide, by decide⟩, by decide⟩, by decide +kernel⟩
  · exact ⟨"Template".toList, rfl, ⟨⟨'T', by decide, by decide⟩, by decide⟩, by decide +kernel⟩

/-- A file named by an alias of its namespace is rendered with the name of the namespace, and read back. -/
theorem ofValue_of_read_alias : ∃ t, read .small "image:my_page#top".toList 0 = .ok t ∧
    t.render true true = "File:My page#top".toList ∧ ofValue none (.leaf (.title t)) = .ok t ∧
      ofValue (some .small) (.text (t.render true true)) = .ok t ∧
      ofValue (some .small) (.text (t.renderKey true true)) = .ok t := by
  have hread : read .small "image:my_page#top".toList 0 = .ok (built .small "image:my_page#top".toList 0) :=
    read_eq_built 0 (by decide +kernel)
  refine ⟨_, hread, by decide +kernel, ?_⟩
  exact ofValue_of_read Site.made_small wellNamed_small hread (Or.inl Site.mainId_small.symm) (by decide +kernel)
    (fun hnil => absurd hnil (by decide +kernel)) (fun hplace => absurd hplace (by decide +kernel))

end Title

end PageMarkup
