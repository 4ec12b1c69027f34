import PageMarkup.Proofs.Template.TitleText

/-!
# One name read for two namespaces

Texts with the same colon and the same name are read alike, with or without a fragment, save for the namespace of a name
that says nothing of its place (`exists_read_of_same_body`). A title that is transcluded is read from its full text, for
the main namespace (`transcluded_title_eq_ok_iff`); the same text is read for the namespace of templates where it is given
as a text. Of the two readings either both are accepted or none is, as far as function hooks are not concerned, and they
name the same page if the text is placed (`isPlaced_render_iff` says which titles have such a text).
-/
namespace PageMarkup.Title

open Text

variable {site : Site} {given other : Text} {fallback fallback' : Int} {t u : Title}

/-- Whether what is read from the text lies in the same namespace whatever it is read for: the text has a colon in front,
or a prefix that the site knows. -/
def IsPlaced (site : Site) (s : Text) : Prop := hasColon s = true ∨ BeginsWithLead site (writtenBody s)

theorem render_eq_append_fragment (t : Title) (colon : Bool) :
    t.render colon true = t.render colon false ++ (if t.fragment.isEmpty then [] else '#' :: t.fragment) := by
  cases hfragment : t.fragment.isEmpty <;> simp [render, hfragment]

/-- The fragment of a rendered title changes nothing about the colon and the name that are read from it. -/
theorem parts_of_render (t : Title) (colon : Bool) :
    hasColon (t.render colon true) = hasColon (t.render colon false) ∧
      writtenBody (t.render colon true) = writtenBody (t.render colon false) := by
  rw [render_eq_append_fragment]
  cases t.fragment.isEmpty with
  | true => simp
  | false => exact ⟨hasColon_hash _ _, writtenBody_hash _ _⟩

/-- The other wiki that a prefix leads to does not depend on what the text is read for. -/
theorem snd_destination (site : Site) (lead : Lead) (id id' : Int) :
    (lead.destination site id).2 = (lead.destination site id').2 := by
  cases lead <;> rfl

theorem fst_destination_eq_iff {lead : Lead} {id id' : Int} :
    (lead.destination site id).1 = (lead.destination site id').1 ↔ lead ≠ .page ∨ id = id' := by
  cases lead with
  | page => exact ⟨Or.inr, fun h => h.resolve_left fun hne => hne rfl⟩
  | ofNamespace _ => exact iff_of_true rfl (Or.inl Lead.noConfusion)
  | ofInterwiki _ => exact iff_of_true rfl (Or.inl Lead.noConfusion)

theorem fst_resolveLead_ne_page_iff {s : Text} (hs : IsName s) :
    (resolveLead site s).1 ≠ .page ↔ BeginsWithLead site s := by
  rw [← not_iff_not, ← resolveLead_eq_page_iff hs, not_not]
  constructor
  · intro hpage
    obtain hwhole | ⟨_, _, -, ⟨_, -, hresolve⟩ | ⟨_, -, -, hresolve⟩⟩ := resolveLead_cases site s
    · exact hwhole
    · simp [hresolve] at hpage
    · simp [hresolve] at hpage
  · intro hwhole
    rw [hwhole]

/-- A name that is not empty is read whatever the fragment and the namespace of the place are. It names the same page if
the text is placed or the namespace is the same. -/
theorem exists_read_of_same_body (hcolon : hasColon other = hasColon given)
    (hbody : writtenBody other = writtenBody given) (fallback' : Int) (hread : read site given fallback = .ok u)
    (hne : u.main ≠ []) :
    ∃ v, read site other fallback' = .ok v ∧ v.main ≠ [] ∧ v.interwiki = u.interwiki ∧
      (v.SamePage u ↔ IsPlaced site other ∨ fallback' = fallback) := by
  obtain ⟨hlegal, hflaw, hu⟩ := read_eq_ok_iff.mp hread
  have hname : writtenName site other = writtenName site given := by rw [writtenName, hbody, writtenName]
  have hwritten : writtenName site given ≠ [] := by
    intro hnil
    rw [main_of_read hread, hnil] at hne
    exact hne ((respelled_applyCase _ _ _ _).eq_nil_iff.mpr rfl)
  have hother : read site other fallback' = .ok (built site other fallback') := by
    refine read_eq_ok_iff.mpr ⟨hbody ▸ hlegal, ?_, rfl⟩
    rw [hname]
    exact (flaw?_of_ne_nil hwritten).mpr ((flaw?_of_ne_nil hwritten).mp hflaw)
  have hmain := main_of_read hother
  rw [hname] at hmain
  have hinterwiki : (built site other fallback').interwiki = u.interwiki := by
    rw [hu, built, built, hbody]
    exact snd_destination _ _ _ _
  have hplace : (built site other fallback').namespaceId = u.namespaceId ↔
      IsPlaced site other ∨ fallback' = fallback := by
    have hbodyName := isName_body_of_read hother
    rw [hu, built, built, hbody, hcolon, fst_destination_eq_iff, IsPlaced, ← fst_resolveLead_ne_page_iff hbodyName, hbody,
      hcolon]
    cases hasColon given with
    | true => simp
    | false => simp
  refine ⟨_, hother, ?_, hinterwiki, ?_⟩
  · rw [hmain]
    exact fun hnil => hwritten ((respelled_applyCase _ _ _ _).eq_nil_iff.mp hnil)
  · rw [← hplace]
    refine ⟨fun hsame => hsame.2.1, fun hid => ⟨hinterwiki, hid, ?_⟩⟩
    rw [hmain, hid, hinterwiki, main_of_read hread]

/-- A title is accepted for a template if no hook begins its full text with underscores, and that text is read, for the
main namespace, as a title of a page that can be transcluded. -/
theorem transcluded_title_eq_ok_iff : transcluded none (.leaf (.title t)) = .ok u ↔
    t.site.hookTable.verify (t.renderKey true true) = none ∧ ofValue none (.leaf (.title t)) = .ok u ∧ u.main ≠ [] ∧
      (u.isExternal = true → u.isTranscludable = true) := by
  have hown : ofValue (some t.site) (.leaf (.title t)) = ofValue none (.leaf (.title t)) := rfl
  cases hverify : t.site.hookTable.verify (t.renderKey true true) with
  | some verified => simp [transcluded, hverify, bind, Except.bind]
  | none =>
    simp only [transcluded, Option.getD_none, hverify, bind, Except.bind, Option.isSome_none, Bool.false_eq_true, if_false,
      true_and, hown]
    cases ofValue none (.leaf (.title t)) with
    | error fault => simp [Functor.map, Except.map]
    | ok title =>
      simp only [Functor.map, Except.map, Except.ok.injEq]
      rw [acceptance_eq_ok_iff]

/-! ## Titles with placed texts -/

theorem render_eq_colon_append (t : Title) :
    t.render true false = (if t.leadingColon then [':'] else []) ++ t.render false false := by
  cases hcolon : t.leadingColon <;> simp [render, hcolon]

/-- A prefix in front of a name that is recognized places the text. -/
theorem isPlaced_prefixed {lead : Text} {resolved : Lead} (hread : read site given fallback = .ok t)
    (hlead : ∀ c ∈ lead, c ≠ '#' ∧ isIllegalInTitle c = false) (hcolon : ':' ∉ lead) (htidy : tidy lead ≠ [])
    (hcore : t.render false false = lead ++ ':' :: t.main)
    (hresolve : resolveLead site (tidy (lead ++ ':' :: t.main)) = (resolved, t.main)) (hne : resolved ≠ .page) :
    IsPlaced site (t.render true false) := by
  obtain ⟨hcut, hlegal⟩ := legal_append_colon hlead (isName_main_of_read hread)
  obtain ⟨-, hbody, -⟩ := parts_of_body t.leadingColon hcut fun _ => hasColon_append_colon t.main hcolon htidy
  rw [← hcore, ← render_eq_colon_append] at hbody
  have hname : IsName (writtenBody (t.render true false)) := by
    apply isName_writtenBody
    rw [hbody, hcore]
    intro c hc
    obtain hmem | rfl := mem_tidy hc
    · exact hlegal c hmem
    · decide
  right
  rw [← fst_resolveLead_ne_page_iff hname, hbody, hcore, hresolve]
  exact hne

/-- On a site whose namespaces can be told apart by their names, the only titles whose text is not placed are those of
pages of the main namespace that are given without a colon. -/
theorem isPlaced_render_iff (hsite : site.Made) (hnamed : site.WellNamed) (hread : read site given fallback = .ok t)
    (hfallback : fallback = site.mainId ∨ (site.namespace? fallback).isSome = true)
    (hlower : t.namespaceId = site.mainId → t.interwiki = [] → lower t.main = lower (writtenName site given)) :
    IsPlaced site (t.render true false) ↔ t.leadingColon = true ∨ t.interwiki ≠ [] ∨ t.namespaceId ≠ site.mainId := by
  have hmainName := isName_main_of_read hread
  by_cases hlocal : t.interwiki = []
  · by_cases hplace : t.namespaceId = site.mainId
    · have hcore : t.render false false = t.main := by
        have hnone : t.namespaceName = [] := by rw [namespaceName, if_pos ((site_of_read hread).symm ▸ hplace)]
        rw [render_of_local hlocal, hnone]
        rfl
      have hpage := resolveLead_body_of_main hsite hnamed.main hread hplace hlocal
      have hunknown : ¬ BeginsWithLead site t.main := by
        rw [beginsWithLead_main_iff hsite hnamed.main hread hplace hlocal]
        exact fun h => h.1 (hlower hplace hlocal)
      obtain ⟨hhas, hbody, -⟩ :=
        parts_of_body t.leadingColon hmainName.uncut fun h => hasColon_main_of_page hread hpage h
      rw [render_eq_colon_append, hcore, IsPlaced, hhas, hbody, hmainName.tidy_eq]
      simp [hunknown, hlocal, hplace]
    · obtain hmain | ⟨space, hspace⟩ := namespace?_of_read hsite hread hfallback
      · exact absurd hmain hplace
      · obtain ⟨name, hspaceName, hname, hid⟩ := hnamed.named _ space hspace hplace
        have hown : t.namespaceName = name := by
          rw [namespaceName, site_of_read hread, if_neg hplace, hspace]
          simp [hspaceName]
        have hcore : t.render false false = name ++ ':' :: t.main := by
          obtain ⟨c, hc, -⟩ := hname.visible
          rw [render_of_local hlocal, hown, if_neg]
          simp [List.ne_nil_of_mem hc]
        have htidy := tidy_ne_nil hname
        exact iff_of_true (isPlaced_prefixed hread (fun c hc => ⟨(hname.plain c hc).2.1, (hname.plain c hc).2.2.2⟩)
          (fun hmem => (hname.plain _ hmem).1 rfl) htidy hcore (resolveLead_named hread hname.plain htidy hid)
          Lead.noConfusion) (Or.inr (Or.inr hplace))
  · obtain ⟨hwiki, hcolon, -, -, hplace⟩ := external_of_read hsite hread hlocal
    exact iff_of_true (isPlaced_prefixed hread hwiki.uncut_and_legal hcolon (by rwa [hwiki.tidy_eq])
      (render_of_external hlocal ((site_of_read hread).symm ▸ hplace)) (resolveLead_external hsite hread hlocal)
      Lead.noConfusion) (Or.inr (Or.inl hlocal))

end PageMarkup.Title
