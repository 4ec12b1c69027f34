import PageMarkup.Proofs.Outcome
import PageMarkup.Proofs.Title.Acceptance
import PageMarkup.Proofs.Title.ReadBack
import PageMarkup.Template.Basic

/-!
# The title text of a template

A template is rendered with the name of its page, behind a colon for a page of the main namespace, and with its full
title for a page anywhere else. A template whose name begins with a colon or a known prefix is rendered without the
prefix that kept them apart (`titleText_names_file`); `titleText_names_same_page_iff` says which titles are read as the
same page again.
-/
namespace PageMarkup

namespace Title

open Text

variable {site : Site} {t u : Title}

/-! ## Texts that name the page of a title -/

/-- Whether the titles name the same page: on the same wiki, in the same namespace, with the same name. -/
def SamePage (u t : Title) : Prop :=
  u.interwiki = t.interwiki ∧ u.namespaceId = t.namespaceId ∧ u.main = t.main

variable {given name : Text} {fallback : Int}

theorem parts_of_body (colon : Bool) {core : Text} (hcut : '#' ∉ core)
    (hcolon : colon = false → hasColon core = false) :
    let given := (if colon then [':'] else []) ++ core
    hasColon given = colon ∧ writtenBody given = tidy core ∧ writtenFragment given = [] := by
  simpa using parts_of_pieces colon [] hcut hcolon

/-- Reading keeps the colons of a name that is not cut. -/
theorem count_main_of_read (h : read site given fallback = .ok u) :
    u.main.count ':' = (writtenName site given).count ':' := by
  rw [main_of_read h]
  exact (respelled_applyCase _ _ _ _).count_eq (by decide)

/-- A body with the colons of the title's name, or fewer, has no prefix that the site knows. -/
theorem resolveLead_of_count_le (h : read site given fallback = .ok u)
    (hcount : (writtenBody given).count ':' ≤ u.main.count ':') :
    resolveLead site (writtenBody given) = (.page, writtenBody given) := by
  obtain hpage | hless := count_colon_of_resolveLead site (isName_body_of_read h)
  · exact hpage
  · rw [count_main_of_read h, writtenName] at hcount
    omega

/-- A name alone is read as the page that it names if no colon and no prefix is taken off it, and it is read for the
right namespace. -/
theorem samePage_bare_iff (colon : Bool) (fallback' : Int) (hread : read site given fallback = .ok t)
    (hlocal : t.interwiki = []) (hne : t.main ≠ []) :
    (∃ u, read site ((if colon then [':'] else []) ++ t.main) fallback' = .ok u ∧ u.SamePage t) ↔
      (colon = false → ¬ [':'] <+: t.main) ∧ ¬ BeginsWithLead site t.main ∧ utf8Length t.main ≤ maxTitleBytes ∧
        (if colon then site.mainId else fallback') = t.namespaceId := by
  have hname := isName_main_of_read hread
  have hhas : hasColon t.main = false ↔ ¬ [':'] <+: t.main := by
    rw [hasColon, hname.tidy_eq, Bool.eq_false_iff, Ne, startsWith_iff]
  constructor
  · rintro ⟨u, hu, -, hid, hmain⟩
    have hstart : colon = false → ¬ [':'] <+: t.main := by
      rintro rfl ⟨rest, hrest⟩
      -- The body is what stands behind the colon, with fewer colons than the name.
      have hbody : (writtenBody t.main).count ':' ≤ rest.count ':' := by
        have hbegin := writtenBody_prefixOf t.main
        rw [← hrest, List.singleton_append, behindColon_colon, tidy_eq_trim_spread,
          spread_eq_self (hname.tidy.within ⟨[':'], [], by simpa using hrest⟩)] at hbegin
        rw [← hrest]
        exact (hbegin.sublist.trans (trim_sublist rest)).count_le ':'
      have hcount : t.main.count ':' = rest.count ':' + 1 := by
        rw [← hrest, List.singleton_append, List.count_cons_self]
      have hread' : read site t.main fallback' = .ok u := hu
      have hpage := resolveLead_of_count_le hread' (by rw [hmain]; omega)
      have hmain' := count_main_of_read hread'
      rw [writtenName, hpage] at hmain'
      dsimp only at hmain'
      rw [hmain] at hmain'
      omega
    obtain ⟨hcolon, hbody, hfragment⟩ := parts_of_body colon hname.uncut fun h => hhas.mpr (hstart h)
    have hpage := resolveLead_of_count_le hu (by rw [hbody, hname.tidy_eq, hmain])
    obtain ⟨-, hflaw, hbuilt⟩ := read_eq_ok_iff.mp hu
    rw [writtenName, hpage, hbody, hname.tidy_eq] at hflaw
    rw [hbody, hname.tidy_eq] at hpage
    refine ⟨hstart, (resolveLead_eq_page_iff hname).mp hpage, ((flaw?_of_ne_nil hne).mp hflaw).2.2, ?_⟩
    rw [← hid, hbuilt, built, hbody, hname.tidy_eq, hpage, hcolon]
    rfl
  · rintro ⟨hstart, hunknown, hlength, hid⟩
    have hpage := (resolveLead_eq_page_iff hname).mpr hunknown
    have hcased : applyCase site t.namespaceId t.interwiki t.main = t.main := by
      rw [main_of_read hread, applyCase_applyCase]
    have hpieces := read_pieces colon [] fallback' hname.uncut
      (fun h => hhas.mpr (hstart h)) hname.legal (by rw [hname.tidy_eq, hpage]) (flaw?_of_read hread hlength hne _ _)
    rw [List.isEmpty_nil, if_pos rfl, List.append_nil] at hpieces
    refine ⟨_, hpieces, hlocal.symm, hid, ?_⟩
    simp only [Lead.destination, hid]
    rw [← hlocal, hcased]

/-- A name behind the name of a namespace is read as the page that it names if that name leads to the namespace. -/
theorem samePage_named_iff (colon : Bool) (fallback' : Int) (hsite : site.Made)
    (hread : read site given fallback = .ok t) (hlocal : t.interwiki = [])
    (hne : t.main ≠ []) (hname : IsPlainName name) (htidy : tidy name ≠ []) :
    (∃ u, read site ((if colon then [':'] else []) ++ (name ++ ':' :: t.main)) fallback' = .ok u ∧ u.SamePage t) ↔
      site.namespaceId? name = some t.namespaceId ∧ utf8Length t.main ≤ maxTitleBytes := by
  have hmainName := isName_main_of_read hread
  have hcolon : ':' ∉ name := fun hmem => (hname _ hmem).1 rfl
  have hcut := cutLead_append_colon hcolon htidy t.main
  obtain ⟨huncut, hlegal⟩ := legal_append_colon (fun c hc => ⟨(hname c hc).2.1, (hname c hc).2.2.2⟩) hmainName
  have hhas := hasColon_append_colon t.main hcolon htidy
  rw [hmainName.tidy_eq] at hcut
  constructor
  · rintro ⟨u, hu, hinterwiki, hid, hmain⟩
    obtain ⟨-, hbody, -⟩ := parts_of_body colon huncut fun _ => hhas
    have hplace := place_of_read hu
    have hbodyName := isName_body_of_read hu
    rw [hbody] at hplace hbodyName
    obtain ⟨hpage, -, -⟩ | ⟨lead, rest, hcut', ⟨hlead, -, hresolve⟩ | ⟨iw, -, hiw, -, hlabel, -⟩⟩ := hplace
    · -- Without a prefix the name would have kept the colon.
      have hcount := count_main_of_read hu
      rw [writtenName, hbody, hpage, (isName_of_cutLead hbodyName hcut).2.2.2.2, hmain] at hcount
      omega
    · obtain ⟨rfl, rfl⟩ : tidy name = lead ∧ t.main = rest := by simpa [hcut] using hcut'
      have hflaw := (read_eq_ok_iff.mp hu).2.1
      rw [writtenName, hbody, hresolve] at hflaw
      rw [namespaceId?_tidy hname, hid] at hlead
      exact ⟨hlead, ((flaw?_of_ne_nil hne).mp hflaw).2.2⟩
    · obtain ⟨hleadName, hleadNe, -⟩ := isName_of_cutLead hbodyName hcut'
      rw [hinterwiki, hlocal, hsite.label_of_interwiki? hiw, hleadName.trimmed] at hlabel
      exact absurd ((respelled_lower lead).eq_nil_iff.mp hlabel.symm) hleadNe
  · rintro ⟨hid, hlength⟩
    have hcased : applyCase site t.namespaceId t.interwiki t.main = t.main := by
      rw [main_of_read hread, applyCase_applyCase]
    have hpieces := read_pieces colon [] fallback' huncut (fun _ => hhas) hlegal
      (resolveLead_named hread hname htidy hid) (flaw?_of_read hread hlength hne _ _)
    rw [List.isEmpty_nil, if_pos rfl, List.append_nil] at hpieces
    refine ⟨_, hpieces, hlocal.symm, rfl, ?_⟩
    simp only [Lead.destination]
    rw [← hlocal, hcased]

/-- A name behind a blank one is read as a page of the main namespace, or with one colon more. -/
theorem not_samePage_blank (colon : Bool) (fallback' : Int) (hread : read site given fallback = .ok t)
    (hlocal : t.interwiki = []) (hne : t.main ≠ [])
    (hplace : t.namespaceId ≠ site.mainId) (hname : IsPlainName name) (htidy : tidy name = []) :
    ¬ ∃ u, read site ((if colon then [':'] else []) ++ (name ++ ':' :: t.main)) fallback' = .ok u ∧ u.SamePage t := by
  have hmainName := isName_main_of_read hread
  have hsame : tidy (name ++ ':' :: t.main) = ':' :: t.main := by
    rw [tidy_eq_trim_spread] at htidy
    rw [tidy_append_colon, trimStart_eq_nil_of_trim htidy, spread_eq_self hmainName.tidy,
      (trim_eq_self_iff.mp hmainName.trimmed).2, List.nil_append]
  cases colon with
  | false =>
    rintro ⟨u, hu, hpage⟩
    have hcolon : tidy (':' :: t.main) = ':' :: t.main := by
      rw [← List.nil_append (':' :: t.main), tidy_append_colon, spread_eq_self hmainName.tidy,
        (trim_eq_self_iff.mp hmainName.trimmed).2]
      rfl
    have hbare : read site (':' :: t.main) fallback' = .ok u :=
      read_congr (hsame.trans hcolon.symm) (fun _ => rfl) hu
    exact hplace ((samePage_bare_iff true fallback' hread hlocal hne).mp ⟨u, hbare, hpage⟩).2.2.2.symm
  | true =>
    rintro ⟨u, hu, -, -, hmain⟩
    obtain ⟨huncut, -⟩ := legal_append_colon (fun c hc => ⟨(hname c hc).2.1, (hname c hc).2.2.2⟩) hmainName
    obtain ⟨-, hbody, -⟩ := parts_of_body true huncut (by simp)
    have hcut : cutLead (':' :: t.main) = none := by simp [cutLead, cutAtFirst]
    have hcount := count_main_of_read hu
    rw [writtenName, hbody, hsame, resolveLead, hcut, hmain, List.count_cons_self] at hcount
    omega

/-- A name behind the prefix of another wiki is read as the page that it names. -/
theorem samePage_external (colon : Bool) (fallback' : Int) (hsite : site.Made)
    (hread : read site given fallback = .ok t) (hexternal : t.interwiki ≠ [])
    (hne : t.main ≠ []) (hlength : utf8Length t.main ≤ maxTitleBytes) :
    ∃ u, read site ((if colon then [':'] else []) ++ (t.interwiki ++ ':' :: t.main)) fallback' = .ok u ∧
      u.SamePage t := by
  obtain ⟨hname, hcolon, -, -, hmain⟩ := external_of_read hsite hread hexternal
  obtain ⟨huncut, hlegal⟩ := legal_append_colon hname.uncut_and_legal (isName_main_of_read hread)
  have hhas := hasColon_append_colon t.main hcolon (by rwa [hname.tidy_eq])
  have hcased : applyCase site t.namespaceId t.interwiki t.main = t.main := by
    rw [main_of_read hread, applyCase_applyCase]
  have hpieces := read_pieces colon [] fallback' huncut (fun _ => hhas) hlegal
    (resolveLead_external hsite hread hexternal) (flaw?_of_read hread hlength hne _ _)
  rw [List.isEmpty_nil, if_pos rfl, List.append_nil] at hpieces
  refine ⟨_, hpieces, rfl, hmain.symm, ?_⟩
  simp only [Lead.destination]
  rw [← hmain, hcased]

/-- The name of a title on another wiki is never too long, as it is not capitalized. -/
theorem utf8Length_of_external (hread : read site given fallback = .ok t) (hexternal : t.interwiki ≠ [])
    (hne : t.main ≠ []) : utf8Length t.main ≤ maxTitleBytes := by
  have hmain := main_of_read hread
  rw [applyCase, if_neg (mt List.isEmpty_iff.mp hexternal)] at hmain
  have hflaw := (read_eq_ok_iff.mp hread).2.1
  rw [← hmain] at hflaw
  exact ((flaw?_of_ne_nil hne).mp hflaw).2.2

/-- Whether a template with the title writes in front of the name what leads to the title's place: the prefix of another
wiki always does, and the name of a namespace does if it leads to that namespace. A name without either must not begin
with what is taken off it. -/
def LeadsBack (t : Title) : Prop :=
  t.interwiki ≠ [] ∨
    if t.namespaceId = t.site.templateId then ¬ [':'] <+: t.main ∧ ¬ BeginsWithLead t.site t.main
    else if t.namespaceId = t.site.mainId then ¬ BeginsWithLead t.site t.main
    else t.site.namespaceId? t.namespaceName = some t.namespaceId

/-- A title on the site, outside of the main namespace and that of templates, is read behind the name of its namespace
if that name leads to it. -/
theorem samePage_elsewhere_iff (colon : Bool) (fallback' : Int) (hsite : site.Made)
    (hread : read site given fallback = .ok t) (hlocal : t.interwiki = [])
    (hne : t.main ≠ []) (hmain : t.namespaceId ≠ site.mainId) (hfallback : t.namespaceId ≠ fallback')
    (hname : IsPlainName t.namespaceName) :
    (∃ u, read site ((if colon then [':'] else []) ++ t.render false false) fallback' = .ok u ∧ u.SamePage t) ↔
      site.namespaceId? t.namespaceName = some t.namespaceId ∧ utf8Length t.main ≤ maxTitleBytes := by
  have hblank : tidy t.namespaceName = [] → site.namespaceId? t.namespaceName ≠ some t.namespaceId := by
    intro htidy hid
    have hnormal : normalizedName t.namespaceName = [] := by
      rw [normalizedName_eq fun c hc => (hname c hc).2.2.1, htidy]
      rfl
    exact hmain (Site.eq_mainId_of_normalizedName hnormal hid)
  rw [render_of_local hlocal]
  cases hempty : t.namespaceName.isEmpty with
  | true =>
    have hnil := List.isEmpty_iff.mp hempty
    refine iff_of_false ?_ fun h => hblank (by rw [hnil, tidy_nil]) h.1
    rw [if_pos rfl, samePage_bare_iff colon fallback' hread hlocal hne]
    rintro ⟨-, -, -, hid⟩
    cases colon with
    | true => exact hmain hid.symm
    | false => exact hfallback hid.symm
  | false =>
    rw [if_neg Bool.false_ne_true]
    by_cases htidy : tidy t.namespaceName = []
    · exact iff_of_false (not_samePage_blank colon fallback' hread hlocal hne hmain hname htidy)
        fun h => hblank htidy h.1
    · exact samePage_named_iff colon fallback' hsite hread hlocal hne hname htidy

end Title

namespace Template

open Title

variable {site : Option Site} {title params hierarchies : Value} {t : Template}

/-- The title text of a template is accepted again, with the same page, if it is no hook and is read as that page. -/
theorem exists_transcluded_iff (hne : t.title.main ≠ [])
    (hexternal : t.title.isExternal = true → t.title.isTranscludable = true) :
    (∃ u, transcluded (some t.title.site) (.text t.titleText) = .ok u ∧ u.SamePage t.title) ↔
      t.title.site.hookTable.verify t.titleText = none ∧
        ∃ u, read t.title.site t.titleText t.title.site.templateId = .ok u ∧ u.SamePage t.title := by
  constructor
  · rintro ⟨u, hu, hsame⟩
    obtain ⟨hverify, hread, -, -⟩ := transcluded_text_eq_ok_iff.mp hu
    exact ⟨hverify, u, hread, hsame⟩
  · rintro ⟨hverify, u, hread, hsame⟩
    have ⟨hinterwiki, _, hmain⟩ := hsame
    refine ⟨u, transcluded_text_eq_ok_iff.mpr ⟨hverify, hread, hmain ▸ hne, ?_⟩, hsame⟩
    rw [isTranscludable, isExternal, hinterwiki, site_of_read hread]
    exact hexternal

/-- The title text of a template is a colon and the full title, except for a title in the namespace of templates. -/
theorem titleText_eq (h : t.title.namespaceId = t.title.site.templateId → t.title.interwiki ≠ []) :
    t.titleText = (if t.hasLeadingColon then [':'] else []) ++ t.title.render false false := by
  have hother : (t.title.namespaceId = t.title.site.templateId && !t.title.isExternal) = false := by
    by_cases hplace : t.title.namespaceId = t.title.site.templateId
    · simp [isExternal, h hplace]
    · simp [hplace]
  rw [titleText, hother]
  cases t.hasLeadingColon <;> rfl

/-- The title text of a template names the same page again, and is no hook, in exactly these cases: no hook begins it,
the capitalized name is not too long, and what stands in front of the name leads back to the title's place. -/
theorem titleText_names_same_page_iff (hcreate : create site title params hierarchies = .ok t)
    (hsite : t.title.site.Made)
    (hname : t.title.namespaceId ≠ t.title.site.templateId → IsPlainName t.title.namespaceName) :
    (t.title.site.hookTable.verify t.titleText = none ∧
        ∃ u, transcluded (some t.title.site) (.text t.titleText) = .ok u ∧ u.SamePage t.title) ↔
      t.title.site.hookTable.verify t.titleText = none ∧ Text.utf8Length t.title.main ≤ maxTitleBytes ∧
        t.title.LeadsBack := by
  obtain ⟨⟨given, fallback, hread⟩, hne, hexternal⟩ :
      (∃ given fallback, read t.title.site given fallback = .ok t.title) ∧
      t.title.main ≠ [] ∧ (t.title.isExternal = true → t.title.isTranscludable = true) := by
    obtain ⟨read, htitle, hrest⟩ := Outcome.bind_eq_ok.mp hcreate
    obtain ⟨table, -, hpure⟩ := Outcome.bind_eq_ok.mp hrest
    obtain rfl := Except.ok.inj hpure
    obtain ⟨hread, -, haccepted⟩ := read_of_transcluded htitle
    exact ⟨hread, haccepted⟩
  rw [exists_transcluded_iff hne hexternal, ← and_assoc, and_self]
  refine and_congr_right fun _ => ?_
  by_cases hlocal : t.title.interwiki = []
  · by_cases hplace : t.title.namespaceId = t.title.site.templateId
    · have htext : t.titleText = t.title.main := by simp [titleText, hplace, isExternal, hlocal]
      have hbare := samePage_bare_iff false t.title.site.templateId hread hlocal hne
      rw [if_neg Bool.false_ne_true, if_neg Bool.false_ne_true, List.nil_append] at hbare
      have hleads : t.title.LeadsBack ↔ ¬ [':'] <+: t.title.main ∧ ¬ BeginsWithLead t.title.site t.title.main := by
        simp only [LeadsBack, hlocal, hplace, ne_eq, not_true_eq_false, false_or, if_true]
      rw [htext, hbare, hleads]
      constructor
      · rintro ⟨hcolon, hlead, hlength, -⟩
        exact ⟨hlength, hcolon rfl, hlead⟩
      · rintro ⟨hlength, hcolon, hlead⟩
        exact ⟨fun _ => hcolon, hlead, hlength, hplace.symm⟩
    · rw [titleText_eq fun h => absurd h hplace]
      by_cases hmain : t.title.namespaceId = t.title.site.mainId
      · have hcolon : t.hasLeadingColon = true := by simp [hasLeadingColon, hmain, isExternal, hlocal]
        have hcore : t.title.render false false = t.title.main := by
          rw [render_of_local hlocal, namespaceName, if_pos hmain]
          rfl
        have hbare := samePage_bare_iff true t.title.site.templateId hread hlocal hne
        have hleads : t.title.LeadsBack ↔ ¬ BeginsWithLead t.title.site t.title.main := by
          simp only [LeadsBack, hlocal, ne_eq, not_true_eq_false, false_or, if_neg hplace, if_pos hmain]
        rw [hcolon, hcore, hbare, hleads]
        constructor
        · rintro ⟨-, hlead, hlength, -⟩
          exact ⟨hlength, hlead⟩
        · rintro ⟨hlength, hlead⟩
          exact ⟨by simp, hlead, hlength, hmain.symm⟩
      · have hleads : t.title.LeadsBack ↔
            t.title.site.namespaceId? t.title.namespaceName = some t.title.namespaceId := by
          simp only [LeadsBack, hlocal, ne_eq, not_true_eq_false, false_or, if_neg hplace, if_neg hmain]
        rw [samePage_elsewhere_iff _ _ hsite hread hlocal hne hmain hplace (hname hplace), hleads, and_comm]
  · have hlength := utf8Length_of_external hread hlocal hne
    rw [titleText_eq fun _ => hlocal, render_of_external hlocal (external_of_read hsite hread hlocal).2.2.2.2]
    exact iff_of_true (samePage_external _ _ hsite hread hlocal hne hlength) ⟨hlength, Or.inl hlocal⟩

theorem create_of_transcluded {u : Title} (h : transcluded site title = .ok u) :
    create site title = .ok { title := u, params := .empty [] } :=
  Outcome.bind_eq_ok.mpr ⟨u, h, rfl⟩

/-- The name of a template without a colon in it is read as that template again. -/
theorem titleText_names_same_page_spaced : ∃ t, create (some .small) (.text "Template:foo_bar".toList) = .ok t ∧
    t.titleText = "Foo bar".toList ∧
    ∃ u, transcluded (some t.title.site) (.text t.titleText) = .ok u ∧ u.SamePage t.title := by
  obtain ⟨u, hread, hid, hmain, hlocal⟩ : ∃ u, read .small "Template:foo_bar".toList Site.small.templateId = .ok u ∧
      u.namespaceId = 10 ∧ u.main = "Foo bar".toList ∧ u.interwiki = [] := exists_read_eq_ok (by decide +kernel)
  have hsite := site_of_read hread
  have hplace : u.namespaceId = u.site.templateId := by
    rw [hsite, hid]
    rfl
  have hcreate := create_of_transcluded (transcluded_text_eq_ok_iff.mpr
    ⟨by decide +kernel, hread, by simp [hmain], by simp [isExternal, hlocal]⟩)
  have htext : ({ title := u, params := .empty [] } : Template).titleText = "Foo bar".toList := by
    simp [titleText, hplace, isExternal, hlocal, hmain]
  have hname : IsPlainName u.namespaceName := by
    rw [namespaceName, hsite, hid]
    decide +kernel
  have hplain : ¬ BeginsWithLead u.site "Foo bar".toList := by
    rintro ⟨lead, behind, hsplit, -⟩
    have hcolon : ':' ∈ "Foo bar".toList := by simp [hsplit]
    revert hcolon
    decide
  have hleads : LeadsBack u := by
    refine Or.inr ?_
    rw [if_pos hplace, hmain]
    exact ⟨by decide, hplain⟩
  refine ⟨_, hcreate, htext, ?_⟩
  refine ((titleText_names_same_page_iff hcreate (hsite ▸ Site.made_small) fun _ => hname).mpr
    ⟨?_, ?_, hleads⟩).2
  · rw [htext, hsite]
    decide +kernel
  · rw [hmain]
    decide

/-- A template whose name begins with the name of another namespace is rendered as a page of that namespace. -/
theorem titleText_names_file : Site.small.Made ∧
    ∃ t, create (some .small) (.text "Template:File:Foo".toList) = .ok t ∧ t.titleText = "File:Foo".toList ∧
      t.title.namespaceId = 10 ∧
      ∀ u, transcluded (some t.title.site) (.text t.titleText) = .ok u → u.namespaceId = 6 ∧ ¬ u.SamePage t.title := by
  obtain ⟨t, hread, hid, hmain, hlocal⟩ : ∃ t, read .small "Template:File:Foo".toList Site.small.templateId = .ok t ∧
      t.namespaceId = 10 ∧ t.main = "File:Foo".toList ∧ t.interwiki = [] := exists_read_eq_ok (by decide +kernel)
  have hsite := site_of_read hread
  have hplace : t.namespaceId = t.site.templateId := by
    rw [hsite, hid]
    rfl
  have hcreate := create_of_transcluded (transcluded_text_eq_ok_iff.mpr
    ⟨by decide +kernel, hread, by simp [hmain], by simp [isExternal, hlocal]⟩)
  have htext : ({ title := t, params := .empty [] } : Template).titleText = "File:Foo".toList := by
    simp [titleText, hplace, isExternal, hlocal, hmain]
  refine ⟨Site.made_small, _, hcreate, htext, hid, fun u hu => ?_⟩
  obtain ⟨v, hagain, hfile, -⟩ : ∃ v, read .small "File:Foo".toList Site.small.templateId = .ok v ∧
      v.namespaceId = 6 ∧ v.main = "Foo".toList ∧ v.interwiki = [] := exists_read_eq_ok (by decide +kernel)
  rw [htext, hsite] at hu
  obtain ⟨-, hreread, -⟩ := transcluded_text_eq_ok_iff.mp hu
  obtain rfl : v = u := Except.ok.inj (hagain.symm.trans hreread)
  refine ⟨hfile, fun hsame => ?_⟩
  have hother : (6 : Int) = 10 := hfile.symm.trans (hsame.2.1.trans hid)
  simp at hother

end Template

end PageMarkup
