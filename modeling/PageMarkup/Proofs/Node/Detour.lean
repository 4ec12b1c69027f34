import PageMarkup.Proofs.Node.GivenTitles
import PageMarkup.Proofs.Page.Classification
import PageMarkup.Proofs.Scan.Unmarked
import PageMarkup.Proofs.Template.LocalEdits

/-!
# Templates that are made calls and templates again

A template that is made a call with a hook leaves its title in the record, and all else of the record as it is: the raw
title and the arguments. So the call has the arguments for its parameters, and made a template again without a title it
is written as the construct that the scan has found (`Page.render_detour`). Only the hierarchies that the template is
then given can keep a table from being made of the arguments, where an argument without a key meets a live key that is
too long a numeral (`ParamTable.TakesArguments`).
-/
namespace PageMarkup

open ParamTable (readChains TakesArguments)

/-- The record of a template that was made a call: the title is the hook, and the title that it had is kept. -/
def BraceRecord.called (record : BraceRecord) (hook : Text) : BraceRecord :=
  { record with title := hook, templateTitle := .text record.title }

namespace Node

variable {t : ScannedTemplate} {c : ScannedCall} {s : Text} {hook hierarchies : Value} {verbose : Bool} {m : Node}

/-- A template is made a call that keeps its title. -/
theorem converted_toCall (htitle : t.record.templateTitle = .null) :
    (scannedTemplate t).converted (.toCall hook verbose) = Attempt.outcome (makingCall hook) verbose (scannedCall <$>
      ScannedCall.ofHook (some t.title.site) t.record (.text t.record.title) hook) := by
  rw [converted, convert, toCall, ScannedTemplate.toCall, htitle]
  exact result_attempted_of _ _

/-- A template that is made a call has the record of one. -/
theorem exists_call_of_converted (htitle : t.record.templateTitle = .null)
    (h : (scannedTemplate t).converted (.toCall hook verbose) = .ok (some m)) :
    ∃ c s, m = scannedCall c ∧ ScannedCall.ofRecord (some t.title.site) (t.record.called s) = .ok c := by
  rw [converted_toCall htitle, Attempt.outcome_eq_some_iff, Outcome.map_eq_ok] at h
  obtain ⟨c, hc, rfl⟩ := h
  cases hook with
  | text s => exact ⟨c, s, rfl, hc⟩
  | _ => simp [ScannedCall.ofHook] at hc

/-- A call that was a template is made one again with the title that it had. -/
theorem converted_of_templateTitle (htitle : c.record.templateTitle = .text s) :
    (scannedCall c).converted (.toTemplate .null hierarchies verbose) =
      Attempt.outcome (makingTemplate (.text s)) verbose (scannedTemplate <$>
        ScannedTemplate.ofRecord (some c.site) { c.record with title := s } hierarchies) := by
  rw [converted, convert, toTemplate, ScannedCall.toTemplate, ScannedCall.askedTitle, htitle]
  exact result_attempted_of _ _

end Node

/-! ## Records -/

section

variable {site : Site} {record : BraceRecord} {args : List Argument} {chains : List (List Text)} {hierarchies : Value}
  {title : Title}

/-- A record with a title that is accepted describes a template if its arguments can be entered, and else a key is too
long a numeral. -/
theorem ScannedTemplate.ofRecord_cases (htitle : Title.transcluded (some site) (.text record.title) = .ok title)
    (hseeds : record.seeds = args.map Argument.toSeed) (hchains : readChains hierarchies = .ok chains) :
    (TakesArguments chains args ∧ ∃ t, ofRecord (some site) record hierarchies = .ok t) ∨
      (¬ TakesArguments chains args ∧ ∃ key, isOverlongKey key = true ∧
        ofRecord (some site) record hierarchies = .error (.noNumeral key)) := by
  cases hmade : ParamTable.ofSeedValues (args.map Argument.toSeed) chains with
  | ok table =>
    refine Or.inl ⟨ParamTable.exists_ofSeedValues_iff.mp ⟨table, hmade⟩, exists_ofRecord_iff.mpr ⟨⟨title, htitle⟩, ?_⟩⟩
    exact ⟨chains, hchains, table, hseeds ▸ hmade⟩
  | error fault =>
    obtain ⟨key, -, hoverlong, rfl⟩ := ParamTable.ofSeedValues_eq_error hmade
    refine Or.inr ⟨fun htakes => ?_, key, hoverlong, ?_⟩
    · obtain ⟨table, htable⟩ := ParamTable.exists_ofSeedValues_iff.mpr htakes
      simp [hmade] at htable
    · rw [ofRecord, htitle, hchains, hseeds]
      simp [bind, Except.bind, hmade]

variable {around skipped : List Scan.Span} {brace : Brace} {call : ScannedCall} {hook : Text}

/-- A call that was a template found by a scan is made a template again that is written as the construct was, if the
arguments can be entered, and else a key is too long a numeral. -/
theorem ScannedCall.restored_cases (hmark : titleMarker ∉ brace.head)
    (htitle : Title.transcluded (some site) (.text (BraceRecord.ofBrace around skipped brace).title) = .ok title)
    (hcall : ofRecord (some site) ((BraceRecord.ofBrace around skipped brace).called hook) = .ok call)
    (hchains : readChains hierarchies = .ok chains) (verbose : Bool) :
    (TakesArguments chains brace.arguments ∧ ∃ u : ScannedTemplate,
        (Node.scannedCall call).converted (.toTemplate .null hierarchies verbose) = .ok (some (.scannedTemplate u)) ∧
        u.render true = .ok (writeBraces brace.head (brace.arguments.flatMap (·.written)))) ∨
      (¬ TakesArguments chains brace.arguments ∧ ∃ key, isOverlongKey key = true ∧
        (Node.scannedCall call).converted (.toTemplate .null hierarchies verbose) = .error (.noNumeral key)) := by
  obtain ⟨hsite, hrecord⟩ := ofRecord_eq_ok hcall
  obtain rfl := Option.some.inj hsite
  have hkept : call.record.templateTitle = .text (BraceRecord.ofBrace around skipped brace).title := by
    rw [hrecord]
    rfl
  -- The record that the call is read from again is that of the construct, with the hook taken out of it.
  obtain ⟨restored, hrestored⟩ : ∃ restored : BraceRecord,
      restored = { call.record with title := (BraceRecord.ofBrace around skipped brace).title } := ⟨_, rfl⟩
  have hraw : restored.rawTitle = rawTitleOf brace.head restored.title := by
    rw [hrestored, hrecord]
    rfl
  have hseeds : restored.seeds = brace.arguments.map Argument.toSeed := by
    rw [hrestored, hrecord]
    rfl
  rw [Node.converted_of_templateTitle hkept, ← hrestored]
  obtain ⟨htakes, u, hu⟩ | ⟨hfails, key, hoverlong, hfault⟩ :=
    ScannedTemplate.ofRecord_cases (by rw [hrestored]; exact htitle) hseeds hchains
  · exact Or.inl ⟨htakes, u, Node.exists_outcome_scannedTemplate_iff.mpr hu,
      ScannedTemplate.render_ofRecord hraw hmark hseeds hu⟩
  · refine Or.inr ⟨hfails, key, hoverlong, ?_⟩
    rw [hfault]
    rfl

end

/-! ## Pages -/

/-- A template that a page without markers holds, and that is made a call with a hook that is accepted, after any edits,
gives a call whose parameters behind the first are its arguments as they stand in the text, without their pipes. Made a
template again without a title, after any edits and with any hierarchies, this call is written in its raw form just as
the construct stands in the text. Only where an argument without a key comes while a key that is too long a numeral is
live, there is no template but a fault. -/
theorem Page.render_detour {page : Page} {given : Value} {titleFits : Text → Bool} {fits : BraceNode → Bool}
    {nodes : List BraceNode} {t : ScannedTemplate} (hmark : titleMarker ∉ page.text)
    (h : page.templates given titleFits fits = .ok nodes) (ht : .template t ∈ nodes) :
    ∃ brace ∈ page.scan.braces, brace.Faithful page.text ∧
      t.record = BraceRecord.ofBrace (page.scan.braces.map (·.span)) (page.skipSpans page.scan) brace ∧
      ∀ edits hook verbose m, ((Node.scannedTemplate t).run edits).converted (.toCall hook verbose) = .ok (some m) →
        (∃ call first, m = .scannedCall call ∧
          call.params = ⟨(first :: brace.arguments.map fun arg => arg.written.drop 1).map some⟩) ∧
        ∀ later hierarchies verbose, Value.IsHierarchies hierarchies → ∃ chains, readChains hierarchies = .ok chains ∧
          (TakesArguments chains brace.arguments → ∃ u : ScannedTemplate,
            (m.run later).converted (.toTemplate .null hierarchies verbose) = .ok (some (.scannedTemplate u)) ∧
            u.render true = .ok (Text.slice brace.span.start brace.span.stop page.text)) ∧
          (¬ TakesArguments chains brace.arguments → ∃ key, isOverlongKey key = true ∧
            (m.run later).converted (.toTemplate .null hierarchies verbose) = .error (.noNumeral key)) := by
  obtain ⟨site, own, brace, hbrace, hown⟩ := exists_brace_of_template_mem h ht
  have hfaithful : brace.Faithful page.text := Scan.faithful_of_mem_braces hbrace
  have hhead := hfaithful.notMem_head hmark
  obtain ⟨hsite, hrecord, -⟩ := ScannedTemplate.ofRecord_eq_ok hown
  obtain rfl := Option.some.inj hsite
  have hsource : writeBraces brace.head (brace.arguments.flatMap (·.written)) =
      Text.slice brace.span.start brace.span.stop page.text := by
    rw [← hfaithful.written_eq_slice, hfaithful.written_eq_parts, writeBraces]
  refine ⟨brace, hbrace, hfaithful, hrecord, fun edits hook verbose m hm => ?_⟩
  have hbuild : (Node.Source.template (some t.title.site) _ own).build = .ok (.scannedTemplate t) :=
    Outcome.map_eq_ok.mpr ⟨t, hown, rfl⟩
  rw [Node.converted_run_of_build hbuild edits id] at hm
  obtain ⟨call, s, rfl, hcall⟩ := Node.exists_call_of_converted (by rw [hrecord]; rfl) hm
  rw [hrecord] at hcall
  constructor
  · obtain ⟨-, -, split, -, -, -, -, -, hparams⟩ := ScannedCall.params_ofRecord rfl hcall
    exact ⟨call, split.firstParam, rfl, hparams⟩
  · intro later hierarchies verbose hhierarchies
    obtain ⟨chains, hchains⟩ := ParamTable.exists_readChains hhierarchies
    have hcalled : (Node.Source.call (some t.title.site) _).build = .ok (.scannedCall call) :=
      Outcome.map_eq_ok.mpr ⟨call, hcall, rfl⟩
    rw [Node.converted_run_of_build hcalled later id, ← hsource]
    refine ⟨chains, hchains, ?_⟩
    obtain ⟨htakes, hu⟩ | ⟨hfails, hfault⟩ := ScannedCall.restored_cases hhead
      (ScannedTemplate.transcluded_of_ofRecord hown) hcall hchains verbose
    · exact ⟨fun _ => hu, fun hnot => absurd htakes hnot⟩
    · exact ⟨fun htakes => absurd htakes hfails, fun _ => hfault⟩

/-- No argument of `localPage` has a key that is too long a numeral. -/
theorem takesArguments_localBrace (chains : List (List Text)) : TakesArguments chains localBrace.arguments := by
  refine TakesArguments.of_keys (fun key hkey => ?_) chains
  obtain ⟨arg, harg, hkey⟩ | ⟨n, hn, rfl⟩ := hkey
  · obtain rfl | rfl : arg = ⟨"|b".toList, none, "b".toList⟩ ∨
        arg = ⟨"| k = c ".toList, some " k ".toList, " c ".toList⟩ := by simpa [localBrace] using harg
    · simp at hkey
    · obtain rfl := Option.some.inj hkey
      decide +kernel
  · have hn : n ≤ 2 := hn
    interval_cases n <;> decide +kernel

/-- A template with another title, and then a call with one parameter less, come back to the text that was found. -/
theorem Page.render_detour_localPage : ∃ t m u, localPage.templates = .ok [.template t] ∧
    ((Node.scannedTemplate t).run [.title (.text "Bar".toList) false]).converted
      (.toCall (.text "#if: x".toList) false) = .ok (some m) ∧
    (m.run [.slots (.delete (.int 1) true)]).converted
      (.toTemplate .null (.list [.list [.text "k".toList, .text "1".toList]]) false) = .ok (some (.scannedTemplate u)) ∧
    u.render true = .ok localPage.text := by
  obtain ⟨t, m, ht, hm⟩ : ∃ (t : ScannedTemplate) (m : Node),
      localPage.templatesOf (braceRecordsOf [] [localBrace]) = .ok [.template t] ∧
      ((Node.scannedTemplate t).run [.title (.text "Bar".toList) false]).converted
        (.toCall (.text "#if: x".toList) false) = .ok (some m) := ⟨_, _, rfl, rfl⟩
  have htemplates : localPage.templates = .ok [.template t] := by
    rw [← ht, ← braces_localPage]
    rfl
  obtain ⟨brace, hbrace, -, -, hcalls⟩ := render_detour (by decide) htemplates List.mem_cons_self
  rw [braces_localPage, List.mem_singleton] at hbrace
  subst hbrace
  obtain ⟨-, hrestored⟩ := hcalls _ _ _ m hm
  have hhierarchies : Value.IsHierarchies (.list [.list [.text "k".toList, .text "1".toList]]) := by
    refine Or.inr ⟨_, Or.inl rfl, List.forall_mem_singleton.mpr ⟨_, Or.inl rfl, ?_⟩⟩
    simp [Value.IsText]
  obtain ⟨chains, -, htaken, -⟩ := hrestored [.slots (.delete (.int 1) true)] _ false hhierarchies
  obtain ⟨u, hu, hrender⟩ := htaken (takesArguments_localBrace chains)
  exact ⟨t, m, u, htemplates, hm, hu, hrender⟩

/-- A numeral that is one digit too long. -/
def overlongNumeral : Text := List.replicate 4301 '9'

/-- A template with a key that is too long a numeral, a key that has priority over it, and an argument without a key. -/
def overlongBrace : Brace where
  span := ⟨0, 4317⟩
  written := "\x7b\x7bFoo|".toList ++ overlongNumeral ++ "=x|a=1|y\x7d\x7d".toList
  head := "Foo".toList
  arguments := [⟨'|' :: overlongNumeral ++ "=x".toList, some overlongNumeral, "x".toList⟩,
    ⟨"|a=1".toList, some "a".toList, "1".toList⟩, ⟨"|y".toList, none, "y".toList⟩]

def overlongPage : Page where
  text := overlongBrace.written
  site := some braceSampleSite
  skipTags := []

/-- The hierarchies by which the numeral is superseded. -/
def overlongHierarchies : Value :=
  .record [("Foo".toList, .list [.list [.text overlongNumeral, .text "a".toList]])]

theorem braces_overlongPage : overlongPage.scan.braces = [overlongBrace] := by
  have hunmarked : Scan.Unmarked "Foo".toList [overlongNumeral ++ '=' :: "x".toList, "a".toList ++ '=' :: "1".toList,
      "y".toList] := by
    refine ⟨by simp [Scan.isTitleCell], ⟨'F', by decide⟩, ?_⟩
    have hdigit : ∀ c ∈ overlongNumeral, Scan.isBare c = true ∧ c ≠ '|' :=
      List.forall_mem_replicate.mpr (Or.inr (by decide))
    have hvalue : ∀ c ∈ '=' :: "x".toList, Scan.isBare c = true ∧ c ≠ '|' := by simp [Scan.isBare]
    refine List.forall_mem_cons.mpr ⟨List.forall_mem_append.mpr ⟨hdigit, hvalue⟩, ?_⟩
    simp [Scan.isBare]
  have hnumeral : ∀ c ∈ overlongNumeral, c ≠ '=' ∧ Scan.isBreak c = false :=
    List.forall_mem_replicate.mpr (Or.inr (by decide))
  have hletter : ∀ c ∈ "a".toList, c ≠ '=' ∧ Scan.isBreak c = false := by simp [Scan.isBreak]
  have hunkeyed : '=' ∉ "y".toList := by decide
  have hlength : overlongPage.text.length = 4317 := by
    rw [overlongPage, overlongBrace, List.length_append, List.length_append, overlongNumeral, List.length_replicate]
    rfl
  have htext : overlongPage.text = Scan.bracedText "Foo".toList [overlongNumeral ++ '=' :: "x".toList,
      "a".toList ++ '=' :: "1".toList, "y".toList] := by
    simp [overlongPage, overlongBrace, Scan.bracedText, Scan.innerText]
  have hbraces := Scan.braces_of_unmarked hunmarked
  rw [← htext, hlength] at hbraces
  rw [Page.scan, hbraces]
  simp only [List.map_cons, List.map_nil, Scan.argumentOf_eq_keyed hnumeral, Scan.argumentOf_eq_keyed hletter,
    Scan.argumentOf_eq_unkeyed hunkeyed]
  rfl

section

variable {key : Text} {source other : Value} (htrim : Text.trim key = key) (hne : key ≠ []) (hother : key ≠ ['a'])

include htrim hne hother

/-- With a chain, only the key of priority is live. -/
theorem keys_ofSeeds_of_chain :
    Keyed.keys (ParamTable.ofSeeds [⟨['x'], some key, source⟩, ⟨['1'], some ['a'], other⟩] [[key, ['a']]]).live =
      [['a']] := by
  have htrimmed : Text.trim ['a'] = ['a'] := by decide
  simp [ParamTable.ofSeeds, ParamTable.addSeed, ParamTable.register, ParamTable.paramOf, htrim, hne, htrimmed,
    ParamTable.empty, ParamTable.override?, ParamTable.chainOf?, Keyed.get?, ParamTable.addNew, Keyed.put, hother,
    hother.symm, ParamTable.evict, Keyed.erase, Keyed.keys, List.idxOf_cons]

/-- Without one, both keys are. -/
theorem isLive_ofSeeds_of_no_chain :
    (ParamTable.ofSeeds [⟨['x'], some key, source⟩, ⟨['1'], some ['a'], other⟩] []).isLive key = true := by
  have htrimmed : Text.trim ['a'] = ['a'] := by decide
  simp [ParamTable.ofSeeds, ParamTable.addSeed, ParamTable.register, ParamTable.paramOf, htrim, hne, htrimmed,
    ParamTable.empty, ParamTable.override?, ParamTable.chainOf?, Keyed.get?, ParamTable.addNew, Keyed.put, hother,
    ParamTable.isLive, Keyed.has]

end

theorem overlongNumeral_plain :
    Text.trim overlongNumeral = overlongNumeral ∧ overlongNumeral ≠ [] ∧ overlongNumeral ≠ ['a'] ∧
      isOverlongKey overlongNumeral = true := by
  refine ⟨Text.trim_of_forall_not_isBlank (List.forall_mem_replicate.mpr (Or.inr (by decide))), ?_, ?_,
    by decide +kernel⟩
  · exact List.ne_nil_of_length_eq_add_one List.length_replicate
  · intro h
    have hlength := congrArg List.length h
    rw [overlongNumeral, List.length_replicate] at hlength
    simp at hlength

theorem map_seed_overlongBrace : (overlongBrace.arguments.take 2).map Argument.seed =
    [⟨['x'], some overlongNumeral, .text ('|' :: overlongNumeral ++ "=x".toList)⟩,
      ⟨['1'], some ['a'], .text "|a=1".toList⟩] := by
  simp [overlongBrace, Argument.seed, overlongNumeral_plain.2.1]

/-- With the chain, the arguments can be entered: the argument without a key comes when the numeral is not live. -/
theorem takesArguments_overlongBrace : TakesArguments [[overlongNumeral, ['a']]] overlongBrace.arguments := by
  obtain ⟨htrim, hne, hother, -⟩ := overlongNumeral_plain
  intro before arg behind hsplit hblank key hlive
  have hbefore : before = overlongBrace.arguments.take 2 := by
    obtain _ | ⟨first, _ | ⟨second, _ | ⟨third, rest⟩⟩⟩ := before
    · obtain rfl := (List.cons.inj hsplit).1
      exact absurd (htrim.symm.trans hblank) hne
    · obtain rfl := (List.cons.inj (List.cons.inj hsplit).2).1
      exact absurd hblank (by decide)
    · simp [overlongBrace] at hsplit ⊢
      exact ⟨hsplit.1.symm, hsplit.2.1.symm⟩
    · simp [overlongBrace] at hsplit
  rw [hbefore, map_seed_overlongBrace, ParamTable.isLive_iff_mem_keys, keys_ofSeeds_of_chain htrim hne hother,
    List.mem_singleton] at hlive
  rw [hlive]
  decide

/-- Without a chain they cannot. -/
theorem not_takesArguments_overlongBrace : ¬ TakesArguments [] overlongBrace.arguments := by
  obtain ⟨htrim, hne, hother, hoverlong⟩ := overlongNumeral_plain
  intro htakes
  have hnone := htakes (overlongBrace.arguments.take 2) ⟨"|y".toList, none, "y".toList⟩ [] rfl (by decide)
    overlongNumeral (by rw [map_seed_overlongBrace]; exact isLive_ofSeeds_of_no_chain htrim hne hother)
  exact absurd (hnone.symm.trans hoverlong) Bool.false_ne_true

/-- Where the hierarchies that a template was found with are not given again, the call that it is made may come back to
a fault. -/
theorem Page.render_detour_overlong : titleMarker ∉ overlongPage.text ∧
    ∃ t call key, overlongPage.templates overlongHierarchies = .ok [.template t] ∧
      (Node.scannedTemplate t).converted (.toCall (.text "#if:".toList) false) = .ok (some (.scannedCall call)) ∧
      isOverlongKey key = true ∧
      (Node.scannedCall call).converted (.toTemplate .null .null false) = .error (.noNumeral key) := by
  obtain ⟨htrim, -, -, -⟩ := overlongNumeral_plain
  have hmark : titleMarker ∉ overlongPage.text := by
    simp only [overlongPage, overlongBrace, List.mem_append, not_or]
    exact ⟨⟨by decide, fun hmem => absurd (List.eq_of_mem_replicate hmem) (by decide)⟩, by decide⟩
  have hhead : titleMarker ∉ overlongBrace.head := by decide
  have hrecords : overlongPage.braceRecords = [BraceRecord.ofBrace [overlongBrace.span] [] overlongBrace] := by
    rw [Page.braceRecords, braces_overlongPage]
    rfl
  obtain ⟨title, htitle, hlookup⟩ : ∃ title, Title.transcluded (some braceSampleSite)
      (.text (BraceRecord.ofBrace [overlongBrace.span] [] overlongBrace).title) = .ok title ∧
      title.render false false = "Foo".toList := ⟨_, rfl, by decide +kernel⟩
  have hchains :
      readChains (.list [.list [.text overlongNumeral, .text "a".toList]]) = .ok [[overlongNumeral, ['a']]] := by
    have hread : readChains (.list [.list [.text overlongNumeral, .text "a".toList]]) =
        .ok [[Text.trim overlongNumeral, ['a']]] := rfl
    rw [hread, htrim]
  obtain ⟨-, t, ht⟩ | ⟨hfails, -⟩ := ScannedTemplate.ofRecord_cases htitle rfl hchains
  · have hnode : BraceNode.ofRecord braceSampleSite overlongHierarchies
        (BraceRecord.ofBrace [overlongBrace.span] [] overlongBrace) = .ok (.template t) := by
      have hhook : (braceSampleSite.hookTable.verify
          (BraceRecord.ofBrace [overlongBrace.span] [] overlongBrace).title).isSome = false := rfl
      rw [BraceNode.ofRecord, hhook, if_neg Bool.false_ne_true, htitle]
      refine Outcome.bind_eq_ok.mpr ⟨_, ?_, Outcome.map_eq_ok.mpr ⟨t, ht, rfl⟩⟩
      rw [hlookup]
      rfl
    obtain ⟨hsite, hrecord, -⟩ := ScannedTemplate.ofRecord_eq_ok ht
    obtain ⟨call, hcall⟩ : ∃ call, ScannedCall.ofRecord (some braceSampleSite)
        ((BraceRecord.ofBrace [overlongBrace.span] [] overlongBrace).called "#if:".toList) = .ok call :=
      ScannedCall.exists_ofRecord_of_split rfl rfl rfl
    have hnone : readChains .null = .ok [] := rfl
    obtain ⟨htakes, -⟩ | ⟨-, key, hoverlong, hfault⟩ :=
      ScannedCall.restored_cases hhead htitle hcall hnone false
    · exact absurd htakes not_takesArguments_overlongBrace
    · refine ⟨hmark, t, call, key, ?_, ?_, hoverlong, hfault⟩
      · rw [Page.templates, hrecords]
        exact Outcome.bind_eq_ok.mpr ⟨_, Outcome.mapM_eq_ok.mpr (List.Forall₂.cons hnode List.Forall₂.nil), rfl⟩
      · rw [Node.converted_toCall (by rw [hrecord]; rfl), Attempt.outcome_eq_some_iff, Outcome.map_eq_ok, ← hsite,
          hrecord]
        exact ⟨call, hcall, rfl⟩
  · exact absurd takesArguments_overlongBrace hfails

end PageMarkup
