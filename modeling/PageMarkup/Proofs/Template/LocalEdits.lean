import PageMarkup.Proofs.Page.BraceRoundTrip
import PageMarkup.Proofs.Param.Arguments
import PageMarkup.Proofs.Param.Rivals
import PageMarkup.Proofs.Param.Sources

/-!
# Changes to the parameters of a scanned template

A template is written in one of two ways: by the texts of all its arguments while its table agrees with the one that was
read, and parameter by parameter otherwise. Which of the two it is makes no difference to a parameter that was left
alone, since it keeps the text of its argument (`ParamTable.exists_pieces`). So whatever is done to other parameters, it
is written as it stands in the text (`Page.render_run_of_template`).
-/
namespace PageMarkup

/-! ## Pieces of a table -/

/-- A parameter with a text to its source is written as that text. -/
theorem TemplateStyle.paramText_of_sourceText {p : Param} {source : Text} (h : p.sourceText? = some source) :
    ({} : TemplateStyle).paramText p = source := by
  simp [TemplateStyle.paramText, h, TemplateStyle.keeps, TemplateStyle.bares]

/-- Parameters whose sources are texts or nothing are written one after the other. -/
theorem TemplateStyle.tableText_of_inOrder {t : ParamTable} {params : List Param} (h : t.inOrder = .ok params)
    (hsources : ∀ p ∈ params, p.foreignSource? = none) :
    ({} : TemplateStyle).tableText t (.ok none) = .ok (params.map ({} : TemplateStyle).paramText).flatten := by
  have hwritable : ({} : TemplateStyle).unwritable? params = none := by
    rw [TemplateStyle.unwritable?, List.findSome?_eq_none_iff]
    intro p hp
    simp [hsources p hp]
  have htext : ({} : TemplateStyle).paramsText params = (params.map ({} : TemplateStyle).paramText).flatten := by
    have hline : ({} : TemplateStyle).paramLine = ({} : TemplateStyle).paramText := by
      funext p
      simp [TemplateStyle.paramLine]
    rw [TemplateStyle.paramsText, hline, List.flatMap_def]
    rfl
  simp [TemplateStyle.tableText, TemplateStyle.reformats, h, hwritable, htext, bind, Except.bind, pure, Except.pure]

namespace ParamTable

theorem order_eq_of_same {t u : ParamTable} (h : t.same u = true) : t.order = u.order := by
  simp only [same, Bool.and_eq_true, beq_iff_eq] at h
  exact h.1.1

/-- What is written for the parameter under a key after a run. It is the text of the parameter alone, or the one that the
parameter was read from if the table agrees with the one before. If the key has held its value throughout the run, both
are the same. -/
structure IsPiece (t : ParamTable) (edits : List Edit) (key piece : Text) : Prop where
  written : ∃ q, Keyed.get? key (t.run edits).live = some q ∧
    (piece = ({} : TemplateStyle).paramText q ∨
      (t.run edits).same t = true ∧ ∃ p, Keyed.get? key t.live = some p ∧ p.sourceText? = some piece)
  kept : ∀ p, Keyed.get? key t.live = some p → t.HoldsThroughout edits key p → p.sourceText? = some piece ∧
    ∃ q, Keyed.get? key (t.run edits).live = some q ∧ ({} : TemplateStyle).paramText q = piece

section

variable {t : ParamTable} {edits : List Edit} {key : Text}

/-- A parameter that was left alone throughout a run is written as the text that it was read from. -/
theorem paramText_of_holdsThroughout (ht : Reached [] t) {p : Param} (hp : Keyed.get? key t.live = some p)
    {source : Text} (hsource : p.sourceText? = some source) (hheld : t.HoldsThroughout edits key p) :
    ∃ q, Keyed.get? key (t.run edits).live = some q ∧ ({} : TemplateStyle).paramText q = source := by
  obtain ⟨q, hq, hkept⟩ := source_run ht hp hheld
  have hsourceq : q.sourceText? = some source := by rw [Param.sourceText?, hkept, ← hsource, Param.sourceText?]
  exact ⟨q, hq, TemplateStyle.paramText_of_sourceText hsourceq⟩

variable {args : List Argument}

/-- The text of its argument is a piece for a key, if the table agrees with the one before. -/
theorem IsPiece.of_same (ht : Reached [] t) (hsame : (t.run edits).same t = true)
    (hkey : (t.run edits).isLive key = true) {arg : Argument} {p : Param} (hp : Keyed.get? key t.live = some p)
    (hread : p.ReadFrom arg) : t.IsPiece edits key arg.written := by
  have hsource : p.sourceText? = some arg.written := by rw [Param.sourceText?, hread.source_eq]; rfl
  obtain ⟨q, hq⟩ := isLive_iff.mp hkey
  refine ⟨⟨q, hq, Or.inr ⟨hsame, p, hp, hsource⟩⟩, fun other hother hheld => ?_⟩
  obtain rfl := Option.some.inj (hp.symm.trans hother)
  exact ⟨hsource, paramText_of_holdsThroughout ht hp hsource hheld⟩

/-- The text of the parameter alone is a piece for its key. -/
theorem IsPiece.of_get? (ht : Reached [] t)
    (hsources : ∀ p, Keyed.get? key t.live = some p → ∃ source, p.sourceText? = some source) {q : Param}
    (hq : Keyed.get? key (t.run edits).live = some q) : t.IsPiece edits key (({} : TemplateStyle).paramText q) := by
  refine ⟨⟨q, hq, Or.inl rfl⟩, fun p hp hheld => ?_⟩
  obtain ⟨source, hsource⟩ := hsources p hp
  obtain ⟨other, hother, htext⟩ := paramText_of_holdsThroughout ht hp hsource hheld
  obtain rfl := Option.some.inj (hq.symm.trans hother)
  exact ⟨hsource.trans (congrArg some htext.symm), q, hq, rfl⟩

/-- After any run over a table that was read from arguments, there is one piece for each live parameter. -/
theorem exists_pieces (ht : Reached [] t)
    (hread : List.Forall₂ (fun key arg => ∃ p, Keyed.get? key t.live = some p ∧ p.ReadFrom arg) t.order args)
    (edits : List Edit) :
    ∃ pieces, List.Forall₂ (t.IsPiece edits) (t.run edits).order pieces ∧
      ({} : TemplateStyle).tableText (t.run edits) ((t.run edits).asScanned? t (args.map Argument.toSeed)) =
        .ok pieces.flatten := by
  have hmutual : MutualChains [] := mutualChains_of_disjoint List.Pairwise.nil
  have hrun : Reached [] (t.run edits) := ht.run_of_no_chains edits
  have hordered : (t.run edits).Ordered := (hrun.ordered_and_noRivals hmutual).1
  have hsource : ∀ key p, Keyed.get? key t.live = some p → ∃ arg ∈ args, p.source = .text arg.written :=
    fun key p hp => exists_source_of_forall₂ (ht.ordered_and_noRivals hmutual).1 hread hp
  rw [asScanned?_arguments]
  cases hsame : (t.run edits).same t with
  | true =>
    have horder := order_eq_of_same hsame
    refine ⟨args.map (·.written), ?_, TemplateStyle.tableText_default _ _⟩
    have hlive : ∀ key ∈ t.order, (t.run edits).isLive key = true := fun key hkey =>
      (hordered.mem_iff key).mp (horder ▸ hkey)
    rw [horder, List.forall₂_map_right_iff]
    refine ((List.forall₂_and_left _ _).mpr ⟨hlive, hread⟩).imp ?_
    exact fun key arg ⟨hkey, p, hp, hreadp⟩ => IsPiece.of_same ht hsame hkey hp hreadp
  | false =>
    obtain ⟨params, hparams, hget⟩ := hordered.exists_inOrder
    have hwritable : ∀ q ∈ params, q.foreignSource? = none := by
      intro q hq
      obtain ⟨⟨i, hi⟩, rfl⟩ := List.mem_iff_get.mp hq
      obtain hnull | ⟨p, hp, hkept⟩ := source_cases_run ht (hget.get (hget.length_eq ▸ hi) hi)
      · rw [Param.foreignSource?, hnull]
      · obtain ⟨arg, -, htext⟩ := hsource _ p hp
        rw [Param.foreignSource?, hkept, htext]
    refine ⟨params.map ({} : TemplateStyle).paramText, ?_, TemplateStyle.tableText_of_inOrder hparams hwritable⟩
    rw [List.forall₂_map_right_iff]
    refine hget.imp fun key q hq => IsPiece.of_get? ht (fun p hp => ?_) hq
    obtain ⟨arg, -, htext⟩ := hsource key p hp
    exact ⟨arg.written, by rw [Param.sourceText?, htext]; rfl⟩

end

end ParamTable

/-! ## Scanned templates -/

/-- A scanned template after calls on its parameters is written with its head as it was and a piece for each parameter. -/
theorem ScannedTemplate.exists_render_run {site : Option Site} {around skipped : List Scan.Span} {brace : Brace}
    {hierarchies : Value} {t : ScannedTemplate} (hmark : titleMarker ∉ brace.head)
    (h : ofRecord site (BraceRecord.ofBrace around skipped brace) hierarchies = .ok t) (hchains : t.params.chains = [])
    (hrecords : ∀ key p, Keyed.get? key t.params.live = some p → p.superseded = []) :
    List.Forall₂ (fun key arg => ∃ p, Keyed.get? key t.params.live = some p ∧ p.ReadFrom arg) t.params.order
        brace.arguments ∧
      ∀ edits, (t.params.run edits).Ordered ∧
        ∃ pieces, List.Forall₂ (t.params.IsPiece edits) (t.params.run edits).order pieces ∧
          ({ t with params := t.params.run edits } : ScannedTemplate).render true =
            .ok (writeBraces brace.head pieces.flatten) := by
  obtain ⟨title, -, h⟩ := Outcome.bind_eq_ok.mp h
  obtain ⟨chains, -, h⟩ := Outcome.bind_eq_ok.mp h
  obtain ⟨params, hparams, h⟩ := Outcome.bind_eq_ok.mp h
  obtain rfl := Except.ok.inj h
  have hreached := ParamTable.reached_ofSeedValues hparams
  obtain rfl : chains = [] := hreached.chains_eq.symm.trans hchains
  have hread := ParamTable.forall₂_readFrom List.Pairwise.nil hparams hrecords
  refine ⟨hread, fun edits => ⟨?_, ?_⟩⟩
  · have hmutual : ParamTable.MutualChains [] := ParamTable.mutualChains_of_disjoint List.Pairwise.nil
    exact ((hreached.run_of_no_chains edits).ordered_and_noRivals hmutual).1
  · obtain ⟨pieces, hpieces, htext⟩ := ParamTable.exists_pieces hreached hread edits
    have htable : ({} : TemplateStyle).tableText (params.run edits)
        ((params.run edits).asScanned? params (BraceRecord.ofBrace around skipped brace).seeds) = .ok pieces.flatten :=
      htext
    have htitle := BraceRecord.titlePart_ofBrace around skipped hmark
    exact ⟨pieces, hpieces, by simp [render, titlePart, htable, htitle, bind, Except.bind, pure, Except.pure]⟩

/-- Changes to the parameters of a template are local. A template that a page without markers holds, and that has no
values on record, has one parameter for each of its arguments. After any calls on its parameters it is written, in its raw
form, as the head that it has in the text and one piece for each live parameter in order, and the piece of a parameter
that was left alone is the text of its argument. -/
theorem Page.render_run_of_template {page : Page} {hierarchies : Value} {titleFits : Text → Bool}
    {fits : BraceNode → Bool} {nodes : List BraceNode} {t : ScannedTemplate} (hmark : titleMarker ∉ page.text)
    (h : page.templates hierarchies titleFits fits = .ok nodes) (ht : .template t ∈ nodes)
    (hchains : t.params.chains = [])
    (hrecords : ∀ key p, Keyed.get? key t.params.live = some p → p.superseded = []) :
    ∃ brace ∈ page.scan.braces,
      t.record = BraceRecord.ofBrace (page.scan.braces.map (·.span)) (page.skipSpans page.scan) brace ∧
      List.Forall₂ (fun key arg => ∃ p, Keyed.get? key t.params.live = some p ∧ p.ReadFrom arg) t.params.order
        brace.arguments ∧
      ∀ edits, (t.params.run edits).Ordered ∧
        ∃ pieces, List.Forall₂ (t.params.IsPiece edits) (t.params.run edits).order pieces ∧
          ({ t with params := t.params.run edits } : ScannedTemplate).render true =
            .ok (writeBraces brace.head pieces.flatten) := by
  obtain ⟨site, chains, brace, hbrace, hown⟩ := exists_brace_of_template_mem h ht
  have hhead : titleMarker ∉ brace.head := fun hmem => hmark (Scan.head_subset hbrace hmem)
  exact ⟨brace, hbrace, ScannedTemplate.record_ofRecord hown,
    ScannedTemplate.exists_render_run hhead hown hchains hrecords⟩

/-- A page with a template that has an unnamed parameter and a spaced one. -/
def localPage : Page where
  text := "\x7b\x7b a |b| k = c \x7d\x7d".toList
  site := some braceSampleSite
  skipTags := []

/-- What the scan finds in `localPage`. -/
def localBrace : Brace where
  span := ⟨0, 17⟩
  written := "\x7b\x7b a |b| k = c \x7d\x7d".toList
  head := " a ".toList
  arguments := [⟨"|b".toList, none, "b".toList⟩, ⟨"| k = c ".toList, some " k ".toList, " c ".toList⟩]

/-- Another value for the unnamed parameter, and a new parameter before the spaced one. -/
def localEdits : List ParamTable.Edit :=
  [.update (.text "1".toList) (.text "x".toList),
    .insert (.text "y".toList) (.text "z".toList) true (.record [("before".toList, .text "k".toList)])]

theorem braces_localPage : localPage.scan.braces = [localBrace] := by decide +kernel

/-- The spaced parameter is left as it is written. -/
theorem Page.render_run_of_localPage :
    ∃ t pieces, localPage.templates = .ok [.template t] ∧
      ({ t with params := t.params.run localEdits } : ScannedTemplate).render true =
        .ok "\x7b\x7b a |1=x|y=z| k = c \x7d\x7d".toList ∧
      List.Forall₂ (t.params.IsPiece localEdits) (t.params.run localEdits).order pieces ∧
      ({ t with params := t.params.run localEdits } : ScannedTemplate).render true =
        .ok (writeBraces localBrace.head pieces.flatten) := by
  obtain ⟨t, ht, hchains, hlive, hwritten⟩ : ∃ t : ScannedTemplate,
      localPage.templatesOf (braceRecordsOf [] [localBrace]) = .ok [.template t] ∧ t.params.chains = [] ∧
      t.params.live.map (·.2.superseded) = [[], []] ∧
      ({ t with params := t.params.run localEdits } : ScannedTemplate).render true =
        .ok "\x7b\x7b a |1=x|y=z| k = c \x7d\x7d".toList := ⟨_, rfl, rfl, rfl, rfl⟩
  have htemplates : localPage.templates = .ok [.template t] := by
    rw [← ht, ← braces_localPage]
    rfl
  have hmark : titleMarker ∉ localPage.text := by decide
  have hrecords : ∀ key p, Keyed.get? key t.params.live = some p → p.superseded = [] := by
    intro key p hp
    have hmem := List.mem_map_of_mem (f := (·.2.superseded)) (Keyed.mem_of_get? hp)
    rw [hlive] at hmem
    simpa using hmem
  obtain ⟨brace, hbrace, -, -, hrun⟩ :=
    render_run_of_template hmark htemplates List.mem_cons_self hchains hrecords
  rw [braces_localPage, List.mem_singleton] at hbrace
  subst hbrace
  obtain ⟨-, pieces, hpieces, hrender⟩ := hrun localEdits
  exact ⟨t, pieces, htemplates, hwritten, hpieces, hrender⟩

end PageMarkup
