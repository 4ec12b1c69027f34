import PageMarkup.Proofs.Node.Attempts
import PageMarkup.Proofs.Title.SameBody

/-!
# Nodes that are given a title

A raw template or a call that is made a template with a title takes the text of that title, without its fragment, and
reads it as a text is read for a template: for the namespace of templates. A template that is made of the title itself
reads its full text for the main namespace. Both paths accept the same titles and come to the same page, but for a title
whose text is not placed, for hooks that begin one of the two texts only, and for tables that cannot be made
(`Page.convertsAs_iff`).
-/
namespace PageMarkup

open ParamTable (readChains chainsValue)

theorem Attempt.outcome_eq_some_iff {α : Type} {action : Except Unwritable Text} {verbose : Bool} {x : Except Fault α}
    {a : α} : outcome action verbose x = .ok (some a) ↔ x = .ok a := by
  constructor
  · exact eq_ok_of_outcome
  · rintro rfl
    rfl

section

variable {site : Option Site} {record : BraceRecord} {hierarchies : Value} {m : ScannedTemplate}

theorem ScannedTemplate.transcluded_of_ofRecord (h : ofRecord site record hierarchies = .ok m) :
    Title.transcluded site (.text record.title) = .ok m.title := by
  obtain ⟨title, htitle, h⟩ := Outcome.bind_eq_ok.mp h
  obtain ⟨chains, -, h⟩ := Outcome.bind_eq_ok.mp h
  obtain ⟨params, -, h⟩ := Outcome.bind_eq_ok.mp h
  obtain rfl := Except.ok.inj h
  exact htitle

/-- A record describes a template if its title is accepted and a table can be made of its arguments. -/
theorem ScannedTemplate.exists_ofRecord_iff : (∃ m, ofRecord site record hierarchies = .ok m) ↔
    (∃ u, Title.transcluded site (.text record.title) = .ok u) ∧
      ∃ chains, readChains hierarchies = .ok chains ∧ ∃ table, ParamTable.ofSeedValues record.seeds chains = .ok table := by
  constructor
  · rintro ⟨m, h⟩
    obtain ⟨title, htitle, h⟩ := Outcome.bind_eq_ok.mp h
    obtain ⟨chains, hchains, h⟩ := Outcome.bind_eq_ok.mp h
    obtain ⟨params, hparams, -⟩ := Outcome.bind_eq_ok.mp h
    exact ⟨⟨title, htitle⟩, chains, hchains, params, hparams⟩
  · rintro ⟨⟨title, htitle⟩, chains, hchains, params, hparams⟩
    exact ⟨_, Outcome.bind_eq_ok.mpr ⟨title, htitle, Outcome.bind_eq_ok.mpr ⟨chains, hchains,
      Outcome.bind_eq_ok.mpr ⟨params, hparams, rfl⟩⟩⟩⟩

end

namespace Title

variable {t u v : Title}

theorem ofValue_title (t : Title) :
    ofValue none (.leaf (.title t)) = read t.site (t.render true true) t.site.mainId := rfl

/-- Whether the title is read again as that of a page that can be transcluded. -/
def Transcludes (t : Title) : Prop := ∃ u, ofValue none (.leaf (.title t)) = .ok u ∧ u.FitsTemplate

/-- What a title has to be for a template depends on the site, on the wiki that it leads to, and on its having a name. -/
theorem FitsTemplate.congr (hu : u.FitsTemplate) (hsite : v.site = u.site) (hinterwiki : v.interwiki = u.interwiki)
    (hne : v.main ≠ []) : v.FitsTemplate := by
  refine ⟨hne, fun hexternal => ?_⟩
  have htranscludes := hu.2
  rw [isExternal, isTranscludable, isExternal, ← hinterwiki, ← hsite] at htranscludes
  rw [isTranscludable]
  exact htranscludes hexternal

/-- The text of a title is accepted for a template where the title is read again, if no hook begins it. -/
theorem exists_transcluded_text_iff :
    (∃ v, transcluded (some t.site) (.text (t.render true false)) = .ok v) ↔
      t.site.hookTable.verify (t.render true false) = none ∧ t.Transcludes := by
  obtain ⟨hcolon, hbody⟩ := parts_of_render t true
  constructor
  · rintro ⟨v, hv⟩
    obtain ⟨hverify, hread, hfits⟩ := transcluded_text_eq_ok_iff.mp hv
    obtain ⟨u, hu, hne, hinterwiki, -⟩ := exists_read_of_same_body hcolon hbody t.site.mainId hread hfits.1
    have hsite := (site_of_read hu).trans (site_of_read hread).symm
    rw [← ofValue_title] at hu
    exact ⟨hverify, u, hu, FitsTemplate.congr hfits hsite hinterwiki hne⟩
  · rintro ⟨hverify, u, hu, hfits⟩
    rw [ofValue_title] at hu
    obtain ⟨v, hread, hne, hinterwiki, -⟩ :=
      exists_read_of_same_body hcolon.symm hbody.symm t.site.templateId hu hfits.1
    have hsite := (site_of_read hread).trans (site_of_read hu).symm
    exact ⟨v, transcluded_text_eq_ok_iff.mpr ⟨hverify, hread, hfits.congr hsite hinterwiki hne⟩⟩

/-- The title that is read from the text names the page of the title that is read again if the text is placed. -/
theorem samePage_of_transcluded_text_iff (hv : transcluded (some t.site) (.text (t.render true false)) = .ok v)
    (hu : ofValue none (.leaf (.title t)) = .ok u) (hne : u.main ≠ []) :
    v.SamePage u ↔ IsPlaced t.site (t.render true false) ∨ t.site.templateId = t.site.mainId := by
  obtain ⟨hcolon, hbody⟩ := parts_of_render t true
  obtain ⟨-, hread, -⟩ := transcluded_text_eq_ok_iff.mp hv
  rw [ofValue_title] at hu
  obtain ⟨w, hw, -, -, hsame⟩ := exists_read_of_same_body hcolon.symm hbody.symm t.site.templateId hu hne
  obtain rfl : w = v := Except.ok.inj (hw.symm.trans hread)
  exact hsame

end Title

theorem Template.exists_create_iff {v : Value} {u : Title} :
    (∃ t, create none v = .ok t ∧ t.title = u) ↔ Title.transcluded none v = .ok u := by
  constructor
  · rintro ⟨t, hcreate, rfl⟩
    obtain ⟨title, htitle, hrest⟩ := Outcome.bind_eq_ok.mp hcreate
    obtain ⟨params, -, hpure⟩ := Outcome.bind_eq_ok.mp hrest
    obtain rfl := Except.ok.inj hpure
    exact htitle
  · exact fun h => ⟨_, create_of_transcluded h, rfl⟩

namespace Node

/-- Whether a template can be made of the node. -/
def BecomesTemplate : Node → Prop
  | rawTemplate _ | scannedCall _ => True
  | _ => False

/-- Whether a table with the hierarchies can be made of the arguments of the node. A raw template keeps the hierarchies
that its own table was made with. -/
def MakesTable (hierarchies : Value) : Node → Prop
  | scannedCall c => ∃ chains, readChains hierarchies = .ok chains ∧
      ∃ table, ParamTable.ofSeedValues c.record.seeds chains = .ok table
  | _ => True

/-- Whether the node is made a template with the title just where a template can be made of the title itself, and then
one of the same page. -/
def ConvertsAs (node : Node) (t : Title) (hierarchies : Value) (verbose : Bool) : Prop :=
  ((∃ m, node.converted (.toTemplate (.leaf (.title t)) hierarchies verbose) = .ok (some (scannedTemplate m))) ↔
      ∃ u, Template.create none (.leaf (.title t)) = .ok u) ∧
    ∀ m u, node.converted (.toTemplate (.leaf (.title t)) hierarchies verbose) = .ok (some (scannedTemplate m)) →
      Template.create none (.leaf (.title t)) = .ok u → m.title.SamePage u.title

variable {node : Node} {t : Title} {hierarchies : Value} {verbose : Bool}

theorem converted_rawTemplate (r : RawTemplate) :
    (rawTemplate r).converted (.toTemplate (.leaf (.title t)) hierarchies verbose) =
      Attempt.outcome (makingTemplate (.leaf (.title t))) verbose (scannedTemplate <$>
        ScannedTemplate.ofRecord (some t.site) { r.record with title := t.render true false }
          (chainsValue r.params.chains)) :=
  converted_toTemplate_rawTemplate r (.leaf (.title t)) hierarchies verbose

theorem converted_scannedCall (c : ScannedCall) :
    (scannedCall c).converted (.toTemplate (.leaf (.title t)) hierarchies verbose) =
      Attempt.outcome (makingTemplate (.text (t.render true false))) verbose (scannedTemplate <$>
        ScannedTemplate.ofRecord (some c.site) { c.record with title := t.render true false } hierarchies) :=
  converted_toTemplate_scannedCall (by simp [ScannedCall.askedTitle, Value.titleText]) hierarchies verbose

theorem exists_outcome_scannedTemplate_iff {action : Except Unwritable Text} {x : Except Fault ScannedTemplate}
    {m : ScannedTemplate} :
    Attempt.outcome action verbose (scannedTemplate <$> x) = .ok (some (scannedTemplate m)) ↔ x = .ok m := by
  rw [Attempt.outcome_eq_some_iff, Outcome.map_eq_ok]
  constructor
  · rintro ⟨u, hu, hsame⟩
    obtain rfl := scannedTemplate.inj hsame
    exact hu
  · exact fun h => ⟨m, h, rfl⟩

/-- A node that is made a template with a title has the title that is read from its text. -/
theorem transcluded_of_converted {m : ScannedTemplate} (hkind : node.BecomesTemplate) (hsite : node.site? = some t.site)
    (h : node.converted (.toTemplate (.leaf (.title t)) hierarchies verbose) = .ok (some (scannedTemplate m))) :
    Title.transcluded (some t.site) (.text (t.render true false)) = .ok m.title := by
  cases node with
  | rawTemplate r =>
    rw [converted_rawTemplate, exists_outcome_scannedTemplate_iff] at h
    exact ScannedTemplate.transcluded_of_ofRecord h
  | scannedCall c =>
    rw [converted_scannedCall, exists_outcome_scannedTemplate_iff] at h
    have hown : c.site = t.site := Option.some.inj hsite
    rw [← hown]
    exact ScannedTemplate.transcluded_of_ofRecord h
  | _ => exact hkind.elim

/-- The table of a raw template can be made again. -/
theorem exists_table_of_build {source : Source} {r : RawTemplate} (hbuild : source.build = .ok (rawTemplate r)) :
    ∃ chains, readChains (chainsValue r.params.chains) = .ok chains ∧
      ∃ table, ParamTable.ofSeedValues r.record.seeds chains = .ok table := by
  obtain ⟨u, hpristine, hsame⟩ := Outcome.map_eq_ok.mp (pristine_of_build hbuild)
  obtain ⟨chains, hchains, hrest⟩ := Outcome.bind_eq_ok.mp hpristine
  obtain ⟨table, htable, -⟩ := Outcome.bind_eq_ok.mp hrest
  exact ⟨chains, hchains, table, htable⟩

/-- A node is made a template with a title if the text of the title is accepted and a table can be made. -/
theorem exists_converted_iff {source : Source} (hbuild : source.build = .ok node) (hkind : node.BecomesTemplate)
    (hsite : node.site? = some t.site) :
    (∃ m, node.converted (.toTemplate (.leaf (.title t)) hierarchies verbose) = .ok (some (scannedTemplate m))) ↔
      (∃ u, Title.transcluded (some t.site) (.text (t.render true false)) = .ok u) ∧ node.MakesTable hierarchies := by
  cases node with
  | rawTemplate r =>
    simp only [converted_rawTemplate, exists_outcome_scannedTemplate_iff, ScannedTemplate.exists_ofRecord_iff, MakesTable]
    exact and_congr_right fun _ => iff_true_intro (exists_table_of_build hbuild)
  | scannedCall c =>
    obtain hsite : c.site = t.site := Option.some.inj hsite
    simp only [converted_scannedCall, exists_outcome_scannedTemplate_iff, ScannedTemplate.exists_ofRecord_iff, hsite,
      MakesTable]
  | _ => exact hkind.elim

/-- A node is made a template with a title just as a template is made of the title, if the title is one that cannot be
transcluded, or else no hook begins one of its two texts only, a table can be made, and the text that the node takes is
placed. -/
theorem convertsAs_iff {source : Source} (hbuild : source.build = .ok node) (hkind : node.BecomesTemplate)
    (hsite : node.site? = some t.site) :
    node.ConvertsAs t hierarchies verbose ↔
      (t.Transcludes →
        (t.site.hookTable.verify (t.render true false) = none ∧ node.MakesTable hierarchies ↔
          t.site.hookTable.verify (t.renderKey true true) = none) ∧
        (t.site.hookTable.verify (t.renderKey true true) = none →
          Title.IsPlaced t.site (t.render true false) ∨ t.site.templateId = t.site.mainId)) := by
  have hconverted := @exists_converted_iff _ _ hierarchies verbose _ hbuild hkind hsite
  rw [Title.exists_transcluded_text_iff] at hconverted
  have hcreated : (∃ u, Template.create none (.leaf (.title t)) = .ok u) ↔
      t.site.hookTable.verify (t.renderKey true true) = none ∧ t.Transcludes := by
    constructor
    · rintro ⟨u, hu⟩
      obtain ⟨hverify, hread⟩ := Title.transcluded_title_eq_ok_iff.mp (Template.exists_create_iff.mp ⟨u, hu, rfl⟩)
      exact ⟨hverify, u.title, hread⟩
    · rintro ⟨hverify, u, hread⟩
      obtain ⟨v, hv, -⟩ := Template.exists_create_iff.mpr (Title.transcluded_title_eq_ok_iff.mpr ⟨hverify, hread⟩)
      exact ⟨v, hv⟩
  rw [ConvertsAs, hconverted, hcreated]
  constructor
  · rintro ⟨haccepted, hsame⟩ htranscludes
    have hboth : t.site.hookTable.verify (t.render true false) = none ∧ node.MakesTable hierarchies ↔
        t.site.hookTable.verify (t.renderKey true true) = none := by
      simpa [htranscludes] using haccepted
    refine ⟨hboth, fun hverify => ?_⟩
    obtain ⟨m, hm⟩ := hconverted.mpr ⟨⟨(hboth.mpr hverify).1, htranscludes⟩, (hboth.mpr hverify).2⟩
    obtain ⟨u, hu⟩ := hcreated.mpr ⟨hverify, htranscludes⟩
    have hread := Title.transcluded_title_eq_ok_iff.mp (Template.exists_create_iff.mp ⟨u, hu, rfl⟩)
    rw [← Title.samePage_of_transcluded_text_iff (transcluded_of_converted hkind hsite hm) hread.2.1 hread.2.2.1]
    exact hsame m u hm hu
  · intro hagree
    refine ⟨?_, fun m u hm hu => ?_⟩
    · constructor
      · rintro ⟨⟨hverify, htranscludes⟩, htable⟩
        exact ⟨(hagree htranscludes).1.mp ⟨hverify, htable⟩, htranscludes⟩
      · rintro ⟨hverify, htranscludes⟩
        obtain ⟨hprinted, htable⟩ := (hagree htranscludes).1.mpr hverify
        exact ⟨⟨hprinted, htranscludes⟩, htable⟩
    · obtain ⟨hverify, hread, hfits⟩ := Title.transcluded_title_eq_ok_iff.mp (Template.exists_create_iff.mp ⟨u, hu, rfl⟩)
      rw [Title.samePage_of_transcluded_text_iff (transcluded_of_converted hkind hsite hm) hread hfits.1]
      exact (hagree ⟨u.title, hread, hfits⟩).2 hverify

end Node

/-- A node that a page holds is made of a record. -/
theorem Page.Holds.exists_source {page : Page} {node : Node} (h : page.Holds node) :
    ∃ source : Node.Source, source.build = .ok node := by
  obtain ⟨hierarchies, titleFits, fits, nodes, htemplates, node, hnode, rfl⟩ | ⟨nodes, hlinks, node, hnode, rfl⟩ := h
  · obtain ⟨site, brace, hbrace, hof⟩ := exists_brace_of_mem_templatesOf htemplates hnode
    exact (BraceNode.exists_source hof).1
  · obtain ⟨record, hof, -⟩ := exists_bracket_of_mem_links hlinks hnode
    exact (LinkNode.exists_source hof).1

/-- A raw template or a call that a page holds is made a template with a title of its site, after any edits, just where a
template can be made of the title, and as one of the same page, in exactly these cases: the title is not read again as
that of a page that can be transcluded; or a hook begins both of its texts; or it begins neither of them, a table can be
made of the arguments, and the text of the title is placed, if the main namespace is not that of templates. -/
theorem Page.converted_as_created_iff {page : Page} {node : Node} (hnode : page.Holds node) (hkind : node.BecomesTemplate)
    {t : Title} (hsite : node.site? = some t.site) (edits : List Node.Edit) (hierarchies : Value) (verbose : Bool) :
    (node.run edits).ConvertsAs t hierarchies verbose ↔
      (t.Transcludes →
        (t.site.hookTable.verify (t.render true false) = none ∧ node.MakesTable hierarchies ↔
          t.site.hookTable.verify (t.renderKey true true) = none) ∧
        (t.site.hookTable.verify (t.renderKey true true) = none →
          Title.IsPlaced t.site (t.render true false) ∨ t.site.templateId = t.site.mainId)) := by
  obtain ⟨source, hbuild⟩ := hnode.exists_source
  have hfresh : (node.run edits).converted (.toTemplate (.leaf (.title t)) hierarchies verbose) =
      node.converted (.toTemplate (.leaf (.title t)) hierarchies verbose) :=
    Node.converted_run_of_build hbuild edits (by cases node <;> exact id)
  rw [← Node.convertsAs_iff hbuild hkind hsite, Node.ConvertsAs, hfresh, ← Node.ConvertsAs]

/-- The title of a page of the main namespace, with a colon in front. -/
def colonTitle : Title where
  site := braceSampleSite
  namespaceId := 0
  main := "Bar".toList
  fragment := "top".toList
  interwiki := []
  leadingColon := true

/-- A raw template that is made a template with a title with a colon. -/
theorem Page.converted_as_created_colon : ∃ r m, relativePage.templates = .ok [.raw r] ∧
    (Node.rawTemplate r).ConvertsAs colonTitle .null false ∧
    (Node.rawTemplate r).converted (.toTemplate (.leaf (.title colonTitle)) .null false) =
      .ok (some (.scannedTemplate m)) := by
  obtain ⟨r, m, ht, hsite, hm⟩ : ∃ (r : RawTemplate) (m : ScannedTemplate),
      relativePage.templatesOf [relativeRecord] = .ok [.raw r] ∧ (Node.rawTemplate r).site? = some braceSampleSite ∧
      (Node.rawTemplate r).converted (.toTemplate (.leaf (.title colonTitle)) .null false) =
        .ok (some (.scannedTemplate m)) := ⟨_, _, rfl, rfl, rfl⟩
  have htemplates : relativePage.templates = .ok [.raw r] := by rw [templates, braceRecords_relativePage, ht]
  have hholds : relativePage.Holds (Node.rawTemplate r) :=
    Or.inl ⟨_, _, _, _, htemplates, .raw r, List.mem_cons_self, rfl⟩
  refine ⟨r, m, htemplates, (converted_as_created_iff hholds trivial hsite [] .null false).mpr fun _ => ?_, hm⟩
  have hprinted : colonTitle.site.hookTable.verify (colonTitle.render true false) = none := by decide +kernel
  have hkey : colonTitle.site.hookTable.verify (colonTitle.renderKey true true) = none := by decide +kernel
  exact ⟨iff_of_true ⟨hprinted, trivial⟩ hkey, fun _ => Or.inl (Or.inl (by decide +kernel))⟩

/-- A title of a page of the main namespace that is given without a colon: the template that is made of it is that page,
and a raw template is made a template of the namespace of templates with it. -/
theorem Page.converted_elsewhere : ∃ r t m u, relativePage.templates = .ok [.raw r] ∧
    Title.read braceSampleSite "Bar".toList braceSampleSite.mainId = .ok t ∧
    (Node.rawTemplate r).converted (.toTemplate (.leaf (.title t)) .null false) = .ok (some (.scannedTemplate m)) ∧
    Template.create none (.leaf (.title t)) = .ok u ∧ u.title.namespaceId = 0 ∧ m.title.namespaceId = 10 ∧
    ¬ m.title.SamePage u.title := by
  obtain ⟨r, t, m, u, ht, hread, hm, hu, hcreated, hconverted⟩ : ∃ (r : RawTemplate) (t : Title) (m : ScannedTemplate)
      (u : Template), relativePage.templatesOf [relativeRecord] = .ok [.raw r] ∧
      Title.read braceSampleSite "Bar".toList braceSampleSite.mainId = .ok t ∧
      (Node.rawTemplate r).converted (.toTemplate (.leaf (.title t)) .null false) = .ok (some (.scannedTemplate m)) ∧
      Template.create none (.leaf (.title t)) = .ok u ∧ u.title.namespaceId = 0 ∧ m.title.namespaceId = 10 :=
    ⟨_, _, _, _, rfl, rfl, rfl, rfl, rfl, rfl⟩
  refine ⟨r, t, m, u, ?_, hread, hm, hu, hcreated, hconverted, fun hsame => ?_⟩
  · rw [templates, braceRecords_relativePage, ht]
  · have hid := hsame.2.1
    rw [hcreated, hconverted] at hid
    simp at hid

end PageMarkup
