import PageMarkup.Node
import PageMarkup.Proofs.Outcome
import PageMarkup.Proofs.Param.Keys
import PageMarkup.Proofs.RawTitle
import PageMarkup.Proofs.Scan.Faithful

/-!
# Constructs in double braces written back

A node that was made from a scanned construct and was not changed since is written, in its raw form, as it was
found. Templates and raw templates fill their title into the raw title and write the texts of their arguments
one after the other; function calls put the head together from the hook and the first parameter. All of them
rely on the scan for one thing only, that the parts of a construct make up its text (`Brace.Faithful`).
-/
namespace PageMarkup

/-! ## Default styles -/

@[simp] theorem TemplateStyle.headText_default (leadingColon : Bool) (title plain : Text) :
    ({} : TemplateStyle).headText leadingColon title plain = title := by
  simp [TemplateStyle.headText, Text.endsWith]

@[simp] theorem TemplateStyle.tableText_default (table : ParamTable) (text : Text) :
    ({} : TemplateStyle).tableText table (.ok (some text)) = .ok text := by
  simp [TemplateStyle.tableText, TemplateStyle.reformats, bind, Except.bind, pure, Except.pure]

@[simp] theorem CallStyle.paramTexts_default (params : List Text) :
    ({} : CallStyle).paramTexts params = params := by
  simp [CallStyle.paramTexts, List.zipIdx_map_fst]

/-! ## Arguments -/

/-- The parameters of a table that agrees with the one that was read are written as the arguments were. -/
theorem ParamTable.asScanned?_arguments (t scanned : ParamTable) (args : List Argument) :
    t.asScanned? scanned (args.map Argument.toSeed) =
      .ok (if t.same scanned then some (args.map (·.written)).flatten else none) := by
  have hsource : (args.map Argument.toSeed).all (·.hasSource) = true := by
    simp [Argument.toSeed, SeedValue.hasSource]
  have htexts : (args.map Argument.toSeed).mapM (·.source.text?) = some (args.map (·.written)) := by
    rw [List.mapM_map]
    exact List.mapM_pure
  cases hsame : t.same scanned with
  | true => simp [ParamTable.asScanned?, hsame, hsource, htexts]
  | false => simp [ParamTable.asScanned?, hsame]

/-- While a table is as it was read, its parameters are written as the arguments were. -/
theorem ParamTable.asScanned?_self {t : ParamTable} (ht : t.DistinctKeys) (args : List Argument) :
    t.asScanned? t (args.map Argument.toSeed) = .ok (some (args.flatMap (·.written))) := by
  rw [asScanned?_arguments, if_pos (same_refl ht), List.flatMap_def]

/-- As parameters of a call, arguments are what they hold behind their pipes. -/
theorem Argument.mapM_positional (args : List Argument) :
    (args.map Argument.toSeed).mapM SeedValue.positional =
      .ok ((args.map fun arg => arg.written.drop 1).map Datum.text) := by
  rw [List.mapM_map, List.map_map]
  exact List.mapM_pure

/-- A list of texts is read as the list of its items. -/
theorem Slots.ofValues_texts (texts : List Text) :
    Slots.ofValues (texts.map .text) = .ok ⟨texts.map some⟩ := by
  have hrun : ∀ (texts : List Text) (s : Slots),
      (texts.map Datum.text).foldlM Slots.add s = .ok ⟨s.items ++ texts.map some⟩ := by
    intro texts
    induction texts with
    | nil =>
      intro s
      simp [pure, Except.pure]
    | cons text rest ih =>
      intro s
      rw [List.map_cons, List.foldlM_cons]
      have hadd : s.add (.text text) = .ok (s.push text) := rfl
      simpa [hadd, Slots.push, bind, Except.bind] using ih (s.push text)
  simpa [Slots.ofValues, Slots.empty] using hrun texts Slots.empty

/-- The parameters of a call behind the first, each with its pipe, are the arguments as they were written. -/
theorem flatMap_pipe_drop {args : List Argument} (h : ∀ arg ∈ args, ∃ rest, arg.written = '|' :: rest) :
    (args.map fun arg => arg.written.drop 1).flatMap (['|'] ++ ·) = args.flatMap (·.written) := by
  rw [List.flatMap_map]
  refine List.flatMap_congr fun arg harg => ?_
  obtain ⟨rest, hrest⟩ := h arg harg
  simp [hrest]

/-! ## Nodes -/

section

variable {site : Option Site} {around skipped : List Scan.Span} {brace : Brace}

theorem BraceRecord.rawTitle_ofBrace (around skipped : List Scan.Span) (brace : Brace) :
    (BraceRecord.ofBrace around skipped brace).rawTitle =
      rawTitleOf brace.head (BraceRecord.ofBrace around skipped brace).title := rfl

theorem BraceRecord.trim_title_ofBrace (around skipped : List Scan.Span) (brace : Brace) :
    Text.trim (BraceRecord.ofBrace around skipped brace).title =
      (BraceRecord.ofBrace around skipped brace).title := Text.trim_trim _

/-- While the title is as it was read, the title part of a construct is its head. -/
theorem BraceRecord.titlePart_ofBrace (around skipped : List Scan.Span) {brace : Brace}
    (hmark : titleMarker ∉ brace.head) (current : Text) :
    (BraceRecord.ofBrace around skipped brace).titlePart current true = brace.head :=
  Origin.titlePart_eq_head current (BraceRecord.rawTitle_ofBrace around skipped brace) hmark

/-- While the table is as it was read, the parameters of a construct are its arguments. -/
theorem BraceRecord.asScanned?_ofBrace {chains : List (List Text)} {params : ParamTable}
    (h : ParamTable.ofSeedValues (BraceRecord.ofBrace around skipped brace).seeds chains = .ok params) :
    params.asScanned? params (BraceRecord.ofBrace around skipped brace).seeds =
      .ok (some (brace.arguments.flatMap (·.written))) :=
  ParamTable.asScanned?_self (ParamTable.distinctKeys_ofSeedValues h) brace.arguments

/-- A template that was made of a record is written as the head and the arguments that the record was made of. -/
theorem ScannedTemplate.render_ofRecord {record : BraceRecord} {head : Text} {args : List Argument} {hierarchies : Value}
    {t : ScannedTemplate} (hraw : record.rawTitle = rawTitleOf head record.title) (hmark : titleMarker ∉ head)
    (hseeds : record.seeds = args.map Argument.toSeed) (h : ofRecord site record hierarchies = .ok t) :
    t.render true = .ok (writeBraces head (args.flatMap (·.written))) := by
  unfold ofRecord at h
  obtain ⟨title, -, h⟩ := Outcome.bind_eq_ok.mp h
  obtain ⟨chains, -, h⟩ := Outcome.bind_eq_ok.mp h
  obtain ⟨params, hparams, h⟩ := Outcome.bind_eq_ok.mp h
  obtain rfl := Except.ok.inj h
  have htable : params.asScanned? params record.seeds = .ok (some (args.flatMap (·.written))) := by
    rw [hseeds]
    exact ParamTable.asScanned?_self (ParamTable.distinctKeys_ofSeedValues hparams) args
  have htitle := fun current => Origin.titlePart_eq_head current hraw hmark
  simp [render, titlePart, htable, htitle, bind, Except.bind, pure, Except.pure]

/-- A raw template is written as its head and its arguments. -/
theorem RawTemplate.render_ofRecord {hierarchies : Value} {t : RawTemplate} (hmark : titleMarker ∉ brace.head)
    (h : ofRecord site (BraceRecord.ofBrace around skipped brace) hierarchies = .ok t) :
    t.render true = .ok (writeBraces brace.head (brace.arguments.flatMap (·.written))) := by
  unfold ofRecord at h
  obtain ⟨chains, -, h⟩ := Outcome.bind_eq_ok.mp h
  obtain ⟨params, hparams, h⟩ := Outcome.bind_eq_ok.mp h
  obtain rfl := Except.ok.inj h
  have htable := BraceRecord.asScanned?_ofBrace hparams
  have htitle := BraceRecord.titlePart_ofBrace around skipped hmark
  simp [render, titlePart, htable, htitle, bind, Except.bind, pure, Except.pure]

theorem ScannedTemplate.record_ofRecord {record : BraceRecord} {hierarchies : Value} {t : ScannedTemplate}
    (h : ofRecord site record hierarchies = .ok t) : t.record = record := by
  unfold ofRecord at h
  obtain ⟨title, -, h⟩ := Outcome.bind_eq_ok.mp h
  obtain ⟨chains, -, h⟩ := Outcome.bind_eq_ok.mp h
  obtain ⟨params, -, h⟩ := Outcome.bind_eq_ok.mp h
  obtain rfl := Except.ok.inj h
  rfl

theorem RawTemplate.record_ofRecord {record : BraceRecord} {hierarchies : Value} {t : RawTemplate}
    (h : ofRecord site record hierarchies = .ok t) : t.record = record := by
  unfold ofRecord at h
  obtain ⟨chains, -, h⟩ := Outcome.bind_eq_ok.mp h
  obtain ⟨params, -, h⟩ := Outcome.bind_eq_ok.mp h
  obtain rfl := Except.ok.inj h
  rfl

theorem ScannedCall.record_ofRecord {record : BraceRecord} {call : ScannedCall}
    (h : ofRecord site record = .ok call) : call.record = record := by
  obtain ⟨known, verified, split, values, params, -, -, -, -, -, rfl⟩ := exists_of_ofRecord_eq_ok h
  rfl

/-- The parameters of a call are the first one, which stands behind the hook, and what the arguments hold behind
their pipes. -/
theorem ScannedCall.params_ofRecord {record : BraceRecord} {args : List Argument} {call : ScannedCall}
    (hseeds : record.seeds = args.map Argument.toSeed) (h : ofRecord site record = .ok call) :
    ∃ (table : HookTable) (verified : VerifiedHook) (split : HookSplit),
      table.verify record.title = some verified ∧ HookSplit.ofOrigin record.toOrigin verified.written = .ok split ∧
      call.hook = verified.written ∧ call.scannedHook = verified.written ∧ call.frame = split.frame ∧
      call.params = ⟨(split.firstParam :: args.map fun arg => arg.written.drop 1).map some⟩ := by
  obtain ⟨known, verified, split, values, params, -, hverified, hsplit, hvalues, hparams, rfl⟩ :=
    exists_of_ofRecord_eq_ok h
  refine ⟨_, verified, split, hverified, hsplit, rfl, rfl, rfl, ?_⟩
  rw [hseeds] at hvalues
  obtain rfl := Except.ok.inj (hvalues.symm.trans (Argument.mapM_positional args))
  have hread : Slots.ofValues ((split.firstParam :: args.map fun arg => arg.written.drop 1).map .text) = .ok params := by
    rw [List.map_cons]
    exact hparams
  rw [Slots.ofValues_texts] at hread
  exact (Except.ok.inj hread).symm

/-- A function call is written as its head and its arguments. -/
theorem ScannedCall.render_ofRecord {call : ScannedCall} (hmark : titleMarker ∉ brace.head)
    (hpiped : ∀ arg ∈ brace.arguments, ∃ rest, arg.written = '|' :: rest)
    (h : ofRecord site (BraceRecord.ofBrace around skipped brace) = .ok call) :
    call.render true = writeBraces brace.head (brace.arguments.flatMap (·.written)) := by
  obtain ⟨table, verified, split, hverified, hsplit, hhook, hscanned, hframe, hparams⟩ := params_ofRecord rfl h
  have hhead := HookSplit.fill_append_firstParam (BraceRecord.rawTitle_ofBrace around skipped brace)
    (BraceRecord.trim_title_ofBrace around skipped brace) hmark (HookTable.verify_prefixOf hverified) hsplit
  have hstrings : call.params.strings = split.firstParam :: brace.arguments.map fun arg => arg.written.drop 1 := by
    simp [hparams, Slots.strings]
  simp only [render, FunctionCall.styledHook, CallStyle.write, CallStyle.paramTexts_default, hstrings,
    Text.joinWith_cons, flatMap_pipe_drop hpiped, hhook, hscanned, hframe, writeBraces, ← hhead]
  simp

/-- What a record becomes: a function call if its title begins with a hook, otherwise a template if the title can be
transcluded, and otherwise a raw template. -/
theorem BraceNode.ofRecord_eq_ok {site : Site} {hierarchies : Value} {record : BraceRecord} {node : BraceNode}
    (h : ofRecord site hierarchies record = .ok node) :
    ((site.hookTable.verify record.title).isSome = true ∧
      ∃ c, ScannedCall.ofRecord (some site) record = .ok c ∧ node = call c) ∨
    ((site.hookTable.verify record.title).isSome = false ∧
      ((∃ title chains t, Title.transcluded (some site) (.text record.title) = .ok title ∧
          ScannedTemplate.ofRecord (some site) record chains = .ok t ∧ node = template t) ∨
        ∃ fault t, Title.transcluded (some site) (.text record.title) = .error fault ∧ fault.isOfTitle = true ∧
          RawTemplate.ofRecord (some site) record = .ok t ∧ node = raw t)) := by
  unfold ofRecord at h
  split at h
  · rename_i hhook
    obtain ⟨c, hc, rfl⟩ := Outcome.map_eq_ok.mp h
    exact Or.inl ⟨hhook, c, hc, rfl⟩
  · rename_i hhook
    refine Or.inr ⟨by simpa using hhook, ?_⟩
    split at h
    · rename_i title htitle
      obtain ⟨chains, -, h⟩ := Outcome.bind_eq_ok.mp h
      obtain ⟨t, ht, rfl⟩ := Outcome.map_eq_ok.mp h
      exact Or.inl ⟨title, chains, t, htitle, ht, rfl⟩
    · rename_i fault htitle
      split at h
      · rename_i hfault
        obtain ⟨t, ht, rfl⟩ := Outcome.map_eq_ok.mp h
        exact Or.inr ⟨fault, t, htitle, hfault, ht, rfl⟩
      · simp at h

/-- A node that describes a construct is written, in its raw form, as its head and its arguments. -/
theorem BraceNode.render_ofRecord {site : Site} {hierarchies : Value} {node : BraceNode}
    (hmark : titleMarker ∉ brace.head) (hpiped : ∀ arg ∈ brace.arguments, ∃ rest, arg.written = '|' :: rest)
    (h : ofRecord site hierarchies (BraceRecord.ofBrace around skipped brace) = .ok node) :
    (Node.ofBrace node).render true = .ok (writeBraces brace.head (brace.arguments.flatMap (·.written))) := by
  obtain ⟨-, c, hc, rfl⟩ | ⟨-, ⟨title, chains, t, -, ht, rfl⟩ | ⟨fault, t, -, -, ht, rfl⟩⟩ := ofRecord_eq_ok h
  · exact congrArg Except.ok (ScannedCall.render_ofRecord hmark hpiped hc)
  · exact ScannedTemplate.render_ofRecord (BraceRecord.rawTitle_ofBrace around skipped brace) hmark rfl ht
  · exact RawTemplate.render_ofRecord hmark ht

/-- A node keeps the record that it was made from. -/
theorem BraceNode.record_ofRecord {site : Site} {hierarchies : Value} {record : BraceRecord} {node : BraceNode}
    (h : ofRecord site hierarchies record = .ok node) : node.record = record := by
  obtain ⟨-, c, hc, rfl⟩ | ⟨-, ⟨title, chains, t, -, ht, rfl⟩ | ⟨fault, t, -, -, ht, rfl⟩⟩ := ofRecord_eq_ok h
  · exact ScannedCall.record_ofRecord hc
  · exact ScannedTemplate.record_ofRecord ht
  · exact RawTemplate.record_ofRecord ht

end

/-! ## Pages -/

/-- A node of a page comes from a construct that the scan has found. -/
theorem Page.exists_brace_of_mem_templatesOf {page : Page} {skipped : List Scan.Span} {braces : List Brace}
    {hierarchies : Value} {titleFits : Text → Bool} {fits : BraceNode → Bool} {nodes : List BraceNode}
    (h : page.templatesOf (braceRecordsOf skipped braces) hierarchies titleFits fits = .ok nodes)
    {node : BraceNode} (hnode : node ∈ nodes) :
    ∃ site, ∃ brace ∈ braces,
      BraceNode.ofRecord site hierarchies (BraceRecord.ofBrace (braces.map (·.span)) skipped brace) = .ok node := by
  unfold templatesOf at h
  split at h
  · rename_i site _
    obtain ⟨all, hall, h⟩ := Outcome.bind_eq_ok.mp h
    obtain rfl := Except.ok.inj h
    obtain ⟨record, hrecord, hof⟩ := Outcome.exists_of_mem_mapM hall (List.mem_of_mem_filter hnode)
    obtain ⟨brace, hbrace, rfl⟩ := List.mem_map.mp (List.mem_of_mem_filter hrecord)
    exact ⟨site, brace, hbrace, hof⟩
  · simp at h

/-- A template of a page is made of the record of a construct that the scan has found. -/
theorem Page.exists_brace_of_template_mem {page : Page} {hierarchies : Value} {titleFits : Text → Bool}
    {fits : BraceNode → Bool} {nodes : List BraceNode} {t : ScannedTemplate}
    (h : page.templates hierarchies titleFits fits = .ok nodes) (ht : .template t ∈ nodes) :
    ∃ site chains, ∃ brace ∈ page.scan.braces, ScannedTemplate.ofRecord (some site)
      (BraceRecord.ofBrace (page.scan.braces.map (·.span)) (page.skipSpans page.scan) brace) chains = .ok t := by
  obtain ⟨site, brace, hbrace, hof⟩ := exists_brace_of_mem_templatesOf h ht
  obtain ⟨-, c, -, hnode⟩ | ⟨-, ⟨title, chains, own, -, hown, hnode⟩ | ⟨fault, raw, -, -, -, hnode⟩⟩ :=
    BraceNode.ofRecord_eq_ok hof
  · simp at hnode
  · obtain rfl := BraceNode.template.inj hnode
    exact ⟨site, chains, brace, hbrace, hown⟩
  · simp at hnode

/-- The record of the only construct in double braces on a page that skips nothing. -/
theorem Page.braceRecords_of_braces {page : Page} {brace : Brace} (hskip : page.skipTags = [])
    (hbraces : page.scan.braces = [brace]) {title : Text} (htitle : titleOfHead brace.head = title) :
    page.braceRecords =
      [{ title, rawTitle := rawTitleOf brace.head title, written := brace.written, span := brace.span
         seeds := brace.arguments.map Argument.toSeed }] := by
  subst htitle
  simp [braceRecords, braceRecordsOf, skipSpans, hskip, hbraces, BraceRecord.ofBrace, Origin.ofHead, Scan.Span.encloses]

/-- Every node in double braces of a text without markers is written, in its raw form, as it stands in the text. -/
theorem Page.render_templatesOf_eq_slice (page : Page) (skipped : List Scan.Span) (braces : List Brace)
    (hierarchies : Value) (titleFits : Text → Bool) (fits : BraceNode → Bool) (nodes : List BraceNode)
    (hmark : titleMarker ∉ page.text) (hfaithful : ∀ brace ∈ braces, brace.Faithful page.text)
    (h : page.templatesOf (braceRecordsOf skipped braces) hierarchies titleFits fits = .ok nodes) :
    ∀ node ∈ nodes, (Node.ofBrace node).render true = .ok node.record.written ∧
      node.record.written = Text.slice node.record.span.start node.record.span.stop page.text := by
  intro node hnode
  obtain ⟨site, brace, hbrace, hof⟩ := exists_brace_of_mem_templatesOf h hnode
  have hbraceFaithful := hfaithful brace hbrace
  have hrecord := BraceNode.record_ofRecord hof
  have hwritten : node.record.written = brace.written := by rw [hrecord]; rfl
  have hspan : node.record.span = brace.span := by rw [hrecord]; rfl
  refine ⟨?_, ?_⟩
  · rw [BraceNode.render_ofRecord (hbraceFaithful.notMem_head hmark) hbraceFaithful.piped hof, hwritten,
      hbraceFaithful.written_eq_parts, writeBraces]
  · rw [hwritten, hspan]
    exact hbraceFaithful.written_eq_slice

/-- A site that knows one function. -/
def braceSampleSite : Site := Site.ofParts .null [] [⟨"if".toList, [], false⟩] ["if".toList] []

/-- A page with a template that has a repeated key, and with a function call. -/
def braceSamplePage : Page where
  text := "\x7b\x7b a |b|1=c\x7d\x7d \x7b\x7b#if: x|y \x7d\x7d".toList
  site := some braceSampleSite
  skipTags := []

/-- The constructs in double braces of `braceSamplePage`. -/
def braceSample : List Brace :=
  [{ span := ⟨0, 13⟩
     written := "\x7b\x7b a |b|1=c\x7d\x7d".toList
     head := " a ".toList
     arguments := [⟨"|b".toList, none, "b".toList⟩, ⟨"|1=c".toList, some "1".toList, "c".toList⟩] },
   { span := ⟨14, 27⟩
     written := "\x7b\x7b#if: x|y \x7d\x7d".toList
     head := "#if: x".toList
     arguments := [⟨"|y ".toList, none, "y ".toList⟩] }]

theorem Page.render_templatesOf_braceSample :
    ∃ t c, braceSamplePage.templatesOf (braceRecordsOf [] braceSample) = .ok [.template t, .call c] ∧
      ∀ node ∈ [BraceNode.template t, .call c], (Node.ofBrace node).render true = .ok node.record.written ∧
        node.record.written = Text.slice node.record.span.start node.record.span.stop braceSamplePage.text := by
  have hmark : titleMarker ∉ braceSamplePage.text := by decide
  have hfaithful : ∀ brace ∈ braceSample, brace.Faithful braceSamplePage.text := by
    intro brace hbrace
    simp only [braceSample, List.mem_cons, List.not_mem_nil, or_false] at hbrace
    obtain rfl | rfl := hbrace
    · exact ⟨rfl, rfl, by simp⟩
    · exact ⟨rfl, rfl, by simp⟩
  refine ⟨_, _, rfl, ?_⟩
  exact render_templatesOf_eq_slice braceSamplePage [] braceSample .null (fun _ => true) (fun _ => true) _ hmark
    hfaithful rfl

end PageMarkup
