import PageMarkup.Proofs.Node.Conversions
import PageMarkup.Proofs.Node.NewTitles

/-!
# Titles of converted nodes

A conversion reads the record of a node again with another title, and with the raw title that it has. The node that comes
of it takes that title for the one that was read. If there is a marker for it, the node is written in its raw form with
the new title in place of the old one; if there is none, the old title part is written again, just as for a title that
was read and left alone (`Page.render_converted`).
-/
namespace PageMarkup

/-! ## Raw titles of renamed records -/

/-- Whether a text is written around titles as nodes do: with parameters between double braces, or with what is displayed
between double brackets. -/
def IsFrame (write : Text → Text) : Prop :=
  (∃ params, write = (writeBraces · params)) ∨ ∃ display, write = (writeBrackets · display)

/-- The head with another title in its place, if there is a place for it. -/
def retitled (head title : Text) (marked : Bool) (new : Text) : Text :=
  if marked then Text.replaceFirst title new head else head

section

variable {head old : Text}

/-- The title part of a record with another title that counts as the one that was read. -/
theorem Origin.titlePart_of_renamed {o : Origin} (hraw : o.rawTitle = rawTitleOf head old) (hmark : titleMarker ∉ head)
    (current : Text) : o.titlePart current true = retitled head old o.hasMarker o.title := by
  unfold titlePart retitled
  cases hmarker : o.hasMarker with
  | true =>
    have hmem : titleMarker ∈ rawTitleOf head old := by
      rw [← hraw]
      simpa [hasMarker] using hmarker
    rw [if_pos rfl, if_pos rfl, if_pos rfl, hraw]
    exact fillRawTitle_rawTitleOf_of_mem o.title hmark hmem
  | false =>
    have hnone : titleMarker ∉ rawTitleOf head old := by
      rw [← hraw]
      simpa [hasMarker] using hmarker
    simpa [hraw] using rawTitleOf_eq_of_notMem hnone

variable {site : Option Site}

/-- A template that is read from a record with another title. -/
theorem ScannedTemplate.render_of_renamed {record : BraceRecord} {args : List Argument} {hierarchies : Value}
    {t : ScannedTemplate} (hraw : record.rawTitle = rawTitleOf head old) (hmark : titleMarker ∉ head)
    (hseeds : record.seeds = args.map Argument.toSeed) (h : ofRecord site record hierarchies = .ok t) :
    ∃ write, IsFrame write ∧ t.render = .ok (write t.titleText) ∧
      t.render true = .ok (write (retitled head old record.hasMarker record.title)) := by
  obtain ⟨title, -, h⟩ := Outcome.bind_eq_ok.mp h
  obtain ⟨chains, -, h⟩ := Outcome.bind_eq_ok.mp h
  obtain ⟨params, hparams, h⟩ := Outcome.bind_eq_ok.mp h
  obtain rfl := Except.ok.inj h
  have htable : params.asScanned? params record.seeds = .ok (some (args.flatMap (·.written))) := by
    rw [hseeds]
    exact ParamTable.asScanned?_self (ParamTable.distinctKeys_ofSeedValues hparams) args
  refine ⟨_, Or.inl ⟨args.flatMap (·.written), rfl⟩, ?_, ?_⟩
  · rw [render_eq_map, htable, TemplateStyle.tableText_default]
    rfl
  · rw [render_eq_map, htable, TemplateStyle.tableText_default, titlePart, if_pos rfl, Title.same_refl,
      Origin.titlePart_of_renamed hraw hmark]
    rfl

/-- A link to a page that is read from a record with another title. -/
theorem ScannedLink.render_of_renamed {record : LinkRecord} {link : ScannedLink}
    (hraw : record.rawTitle = rawTitleOf head old) (hmark : titleMarker ∉ head)
    (h : ofRecord site record = .ok link) :
    ∃ write, IsFrame write ∧ link.render = write (link.title.render true true) ∧
      link.render true = write (retitled head old record.hasMarker record.title) := by
  obtain ⟨title, -, h⟩ := Outcome.bind_eq_ok.mp h
  obtain rfl := Except.ok.inj h
  refine ⟨_, Or.inr ⟨_, rfl⟩, rfl, ?_⟩
  rw [render, titlePart, if_pos rfl, Title.same_refl, Origin.titlePart_of_renamed hraw hmark]

/-- A link that embeds a file and is read from a record with another title. -/
theorem ScannedFileLink.render_of_renamed {record : LinkRecord} {link : ScannedFileLink}
    (hraw : record.rawTitle = rawTitleOf head old) (hmark : titleMarker ∉ head)
    (h : ofRecord site record = .ok link) :
    ∃ write, IsFrame write ∧ link.render = write link.titleText ∧
      link.render true = write (retitled head old record.hasMarker record.title) := by
  obtain ⟨title, -, h⟩ := Outcome.bind_eq_ok.mp h
  obtain rfl := Except.ok.inj h
  refine ⟨_, Or.inr ⟨_, rfl⟩, rfl, ?_⟩
  rw [render, titlePart, if_pos rfl, Title.same_refl, Origin.titlePart_of_renamed hraw hmark]

end

/-! ## What conversions read -/

section

variable {site : Option Site} {title : Value}

theorem ScannedTemplate.exists_of_ofTitle {record : BraceRecord} {hierarchies : Value} {t : ScannedTemplate}
    (h : ofTitle site record title hierarchies = .ok t) :
    ∃ s, title.text? = some s ∧ ofRecord site { record with title := s } hierarchies = .ok t := by
  unfold ofTitle at h
  split at h
  · rename_i s
    exact ⟨s, rfl, h⟩
  · simp at h

/-- A call is made a template in the same way whatever title is named. -/
theorem ScannedCall.toTemplate_of_ne_null (call : ScannedCall) (hierarchies : Value) (verbose : Bool)
    (hne : title ≠ .null) :
    call.toTemplate title hierarchies verbose = Attempt.of (makingTemplate title.titleText) call.shown verbose
      (ScannedTemplate.ofTitle (some call.site) call.record title.titleText hierarchies) := by
  cases title with
  | null => exact absurd rfl hne
  | leaf a => cases a <;> rfl
  | _ => rfl

theorem ScannedLink.exists_of_ofTitle {record : LinkRecord} {link : ScannedLink}
    (h : ofTitle site record title = .ok link) :
    ∃ s, title.fullTitleText.text? = some s ∧ ofRecord site { record with title := s } = .ok link := by
  unfold ofTitle at h
  split at h
  · rename_i s hs
    exact ⟨s, by rw [hs]; rfl, h⟩
  · simp at h

theorem ScannedFileLink.exists_of_ofTitle {record : LinkRecord} {link : ScannedFileLink}
    (h : ofTitle site record title = .ok link) :
    ∃ s, title.fullTitleText.text? = some s ∧
      ofRecord site { record.showing none (some (paramsOfDisplay record.display)) with title := s } = .ok link := by
  unfold ofTitle at h
  split at h
  · rename_i s hs
    exact ⟨s, by rw [hs]; rfl, h⟩
  · simp at h

end

namespace Node

/-- Whether the conversion is one to a title that is named. -/
def Conversion.NamesTitle : Conversion → Prop
  | .toTemplate title _ _ => title ≠ .null
  | .toLink _ _ | .toFileLink _ _ => True
  | .toCall _ _ => False

/-- The text of the title that the conversion names, if it is one. -/
def Conversion.titleText? : Conversion → Option Text
  | .toTemplate title _ _ => title.titleText.text?
  | .toLink title _ | .toFileLink title _ => title.fullTitleText.text?
  | .toCall _ _ => none

variable {node fresh m : Node} {c : Conversion}

/-- A node has the records of its pristine copy. -/
theorem records_of_pristine (h : node.pristine = .ok fresh) :
    node.braceRecord? = fresh.braceRecord? ∧ node.linkRecord? = fresh.linkRecord? := by
  cases node with
  | scannedTemplate t =>
    obtain ⟨u, hu, rfl⟩ := Outcome.map_eq_ok.mp h
    exact ⟨congrArg some (ScannedTemplate.record_ofRecord hu).symm, rfl⟩
  | rawTemplate t =>
    obtain ⟨u, hu, rfl⟩ := Outcome.map_eq_ok.mp h
    exact ⟨congrArg some (RawTemplate.record_ofRecord hu).symm, rfl⟩
  | scannedCall call =>
    obtain ⟨u, hu, rfl⟩ := Outcome.map_eq_ok.mp h
    exact ⟨congrArg some (ScannedCall.record_ofRecord hu).symm, rfl⟩
  | scannedLink link =>
    obtain ⟨u, hu, rfl⟩ := Outcome.map_eq_ok.mp h
    exact ⟨rfl, congrArg some (ScannedLink.record_ofRecord hu).symm⟩
  | scannedFileLink link =>
    obtain ⟨u, hu, rfl⟩ := Outcome.map_eq_ok.mp h
    exact ⟨rfl, congrArg some (ScannedFileLink.record_ofRecord hu).symm⟩
  | scannedRawLink link =>
    obtain rfl := Except.ok.inj h
    exact ⟨rfl, rfl⟩
  | _ => simp [pristine] at h

/-- The title of a found template or link, as such a node is written with it. -/
def canonicalTitle? : Node → Option Text
  | scannedTemplate t => some t.titleText
  | scannedLink l => some (l.title.render true true)
  | scannedFileLink l => some l.titleText
  | _ => none

/-- A node that is read from a record with the title `s` and the raw title of `o`. -/
inductive Renamed (o : Origin) (s : Text) : Node → Prop where
  | template {site : Option Site} {record : BraceRecord} {args : List Argument} {hierarchies : Value}
      {t : ScannedTemplate} (read : ScannedTemplate.ofRecord site record hierarchies = .ok t)
      (seeds : record.seeds = args.map Argument.toSeed) (title : record.title = s)
      (rawTitle : record.rawTitle = o.rawTitle) : Renamed o s (scannedTemplate t)
  | link {site : Option Site} {record : LinkRecord} {link : ScannedLink}
      (read : ScannedLink.ofRecord site record = .ok link) (title : record.title = s)
      (rawTitle : record.rawTitle = o.rawTitle) : Renamed o s (scannedLink link)
  | fileLink {site : Option Site} {record : LinkRecord} {link : ScannedFileLink}
      (read : ScannedFileLink.ofRecord site record = .ok link) (title : record.title = s)
      (rawTitle : record.rawTitle = o.rawTitle) : Renamed o s (scannedFileLink link)

/-- A node with another title is written with that title, and in its raw form with the old head around it if there is a
marker, and with the old head alone if there is none. -/
theorem Renamed.render {o : Origin} {s head : Text} (h : Renamed o s m) (hraw : o.rawTitle = rawTitleOf head o.title)
    (hmark : titleMarker ∉ head) : ∃ write canonical, m.canonicalTitle? = some canonical ∧ IsFrame write ∧
      m.render = .ok (write canonical) ∧ m.render true = .ok (write (retitled head o.title o.hasMarker s)) := by
  have hmarker : ∀ {p : Origin}, p.rawTitle = o.rawTitle → p.hasMarker = o.hasMarker := by
    intro p hp
    rw [Origin.hasMarker, hp, Origin.hasMarker]
  cases h with
  | template read seeds title rawTitle =>
    obtain ⟨write, hframe, hplain, hwritten⟩ :=
      ScannedTemplate.render_of_renamed (rawTitle.trans hraw) hmark seeds read
    rw [title, hmarker rawTitle] at hwritten
    exact ⟨write, _, rfl, hframe, hplain, hwritten⟩
  | link read title rawTitle =>
    obtain ⟨write, hframe, hplain, hwritten⟩ := ScannedLink.render_of_renamed (rawTitle.trans hraw) hmark read
    rw [title, hmarker rawTitle] at hwritten
    exact ⟨write, _, rfl, hframe, congrArg Except.ok hplain, congrArg Except.ok hwritten⟩
  | fileLink read title rawTitle =>
    obtain ⟨write, hframe, hplain, hwritten⟩ := ScannedFileLink.render_of_renamed (rawTitle.trans hraw) hmark read
    rw [title, hmarker rawTitle] at hwritten
    exact ⟨write, _, rfl, hframe, congrArg Except.ok hplain, congrArg Except.ok hwritten⟩

theorem not_converted {fault : Fault} :
    Attempt.result <$> (.error fault : Except Fault (Attempt Node)) ≠ .ok (some m) := by
  simp [Functor.map, Except.map]

/-- A found node that is converted to a title is read from its record with that title. -/
theorem exists_of_converted {o : Origin} (horigin : node.origin? = some o)
    (hseeds : ∀ record, node.braceRecord? = some record → ∃ args : List Argument, record.seeds = args.map Argument.toSeed)
    (hc : c.NamesTitle) (h : node.converted c = .ok (some m)) : ∃ s, c.titleText? = some s ∧ Renamed o s m := by
  cases node with
  | rawTemplate t =>
    obtain rfl := Option.some.inj horigin
    obtain ⟨args, hargs⟩ := hseeds _ rfl
    cases c with
    | toTemplate title hierarchies verbose =>
      obtain ⟨u, hu, rfl⟩ := exists_of_attempted h
      rw [RawTemplate.toTemplate_eq] at hu
      obtain ⟨site, -, hof⟩ := Outcome.bind_eq_ok.mp (Attempt.eq_ok_of_result hu)
      obtain ⟨s, hs, hread⟩ := ScannedTemplate.exists_of_ofTitle hof
      exact ⟨s, hs, .template hread hargs rfl rfl⟩
    | toCall hook verbose => exact hc.elim
    | toLink title verbose | toFileLink title verbose => exact absurd h not_converted
  | scannedCall call =>
    obtain rfl := Option.some.inj horigin
    obtain ⟨args, hargs⟩ := hseeds _ rfl
    cases c with
    | toTemplate title hierarchies verbose =>
      obtain ⟨u, hu, rfl⟩ := exists_of_attempted h
      rw [ScannedCall.toTemplate_of_ne_null _ _ _ hc] at hu
      obtain ⟨s, hs, hread⟩ := ScannedTemplate.exists_of_ofTitle (Attempt.eq_ok_of_result hu)
      exact ⟨s, hs, .template hread hargs rfl rfl⟩
    | toCall hook verbose => exact hc.elim
    | toLink title verbose | toFileLink title verbose => exact absurd h not_converted
  | scannedTemplate t =>
    cases c with
    | toCall hook verbose => exact hc.elim
    | toTemplate title hierarchies verbose | toLink title verbose | toFileLink title verbose =>
      exact absurd h not_converted
  | scannedLink link =>
    obtain rfl := Option.some.inj horigin
    cases c with
    | toFileLink title verbose =>
      obtain ⟨u, hu, rfl⟩ := exists_of_attempted h
      obtain ⟨s, hs, hread⟩ := ScannedFileLink.exists_of_ofTitle (Attempt.eq_ok_of_result hu)
      exact ⟨s, hs, .fileLink hread rfl rfl⟩
    | toCall hook verbose => exact hc.elim
    | toTemplate title hierarchies verbose | toLink title verbose => exact absurd h not_converted
  | scannedFileLink link =>
    obtain rfl := Option.some.inj horigin
    cases c with
    | toLink title verbose =>
      obtain ⟨u, hu, rfl⟩ := exists_of_attempted h
      obtain ⟨s, hs, hread⟩ := ScannedLink.exists_of_ofTitle (Attempt.eq_ok_of_result hu)
      exact ⟨s, hs, .link hread rfl rfl⟩
    | toCall hook verbose => exact hc.elim
    | toTemplate title hierarchies verbose | toFileLink title verbose => exact absurd h not_converted
  | scannedRawLink link =>
    obtain rfl := Option.some.inj horigin
    cases c with
    | toLink title verbose =>
      obtain ⟨u, hu, rfl⟩ := exists_of_attempted h
      obtain ⟨s, hs, hread⟩ := ScannedLink.exists_of_ofTitle (Attempt.eq_ok_of_result hu)
      exact ⟨s, hs, .link hread rfl rfl⟩
    | toFileLink title verbose =>
      obtain ⟨u, hu, rfl⟩ := exists_of_attempted h
      obtain ⟨s, hs, hread⟩ := ScannedFileLink.exists_of_ofTitle (Attempt.eq_ok_of_result hu)
      exact ⟨s, hs, .fileLink hread rfl rfl⟩
    | toCall hook verbose => exact hc.elim
    | toTemplate title hierarchies verbose => exact absurd h not_converted
  | _ => simp [origin?, braceRecord?, linkRecord?] at horigin

end Node

/-! ## Nodes of pages -/

/-- A node in double braces that describes a record is made of it. -/
theorem BraceNode.exists_source {site : Site} {hierarchies : Value} {record : BraceRecord} {node : BraceNode}
    (h : ofRecord site hierarchies record = .ok node) :
    (∃ source : Node.Source, source.build = .ok (Node.ofBrace node)) ∧
      (Node.ofBrace node).braceRecord? = some record ∧ (Node.ofBrace node).linkRecord? = none := by
  obtain ⟨-, call, hcall, rfl⟩ | ⟨-, ⟨title, chains, t, -, ht, rfl⟩ | ⟨fault, t, -, -, ht, rfl⟩⟩ := ofRecord_eq_ok h
  · exact ⟨⟨.call _ _, Outcome.map_eq_ok.mpr ⟨call, hcall, rfl⟩⟩, congrArg some (ScannedCall.record_ofRecord hcall), rfl⟩
  · exact ⟨⟨.template _ _ _, Outcome.map_eq_ok.mpr ⟨t, ht, rfl⟩⟩, congrArg some (ScannedTemplate.record_ofRecord ht), rfl⟩
  · exact ⟨⟨.rawTemplate _ _ _, Outcome.map_eq_ok.mpr ⟨t, ht, rfl⟩⟩, congrArg some (RawTemplate.record_ofRecord ht), rfl⟩

/-- A link that describes a record is made of one with the same origin. -/
theorem LinkNode.exists_source {site : Option Site} {record : LinkRecord} {node : LinkNode}
    (h : ofRecord site record = .ok node) :
    (∃ source : Node.Source, source.build = .ok (Node.ofLink node)) ∧ (Node.ofLink node).braceRecord? = none ∧
      ∃ own, (Node.ofLink node).linkRecord? = some own ∧ own.toOrigin = record.toOrigin := by
  obtain ⟨link, hlink, rfl⟩ | ⟨link, hlink, rfl⟩ | rfl := ofRecord_eq_ok h
  · exact ⟨⟨.fileLink _ _, Outcome.map_eq_ok.mpr ⟨link, hlink, rfl⟩⟩, rfl, _,
      congrArg some (ScannedFileLink.record_ofRecord hlink), rfl⟩
  · exact ⟨⟨.link _ _, Outcome.map_eq_ok.mpr ⟨link, hlink, rfl⟩⟩, rfl, _,
      congrArg some (ScannedLink.record_ofRecord hlink), rfl⟩
  · exact ⟨⟨.rawLink site record, rfl⟩, rfl, record, rfl, rfl⟩

/-- Whether the node is one of those that a page holds. -/
def Page.Holds (page : Page) (node : Node) : Prop :=
  (∃ hierarchies titleFits fits nodes, page.templates hierarchies titleFits fits = .ok nodes ∧
    ∃ brace ∈ nodes, node = .ofBrace brace) ∨
  ∃ nodes, page.links = .ok nodes ∧ ∃ link ∈ nodes, node = .ofLink link

/-- A node that a page without markers holds is made of a record with the head that it is written with. -/
theorem Page.Holds.exists_head {page : Page} {node : Node} (h : page.Holds node) (hmark : titleMarker ∉ page.text) :
    (∃ source : Node.Source, source.build = .ok node) ∧
      (∀ record, node.braceRecord? = some record →
        ∃ args : List Argument, record.seeds = args.map Argument.toSeed) ∧
      ∃ o head, node.origin? = some o ∧ titleMarker ∉ head ∧ o.title = titleOfHead head ∧
        o.rawTitle = rawTitleOf head o.title ∧ ∃ write, IsFrame write ∧ node.render true = .ok (write head) := by
  obtain ⟨hierarchies, titleFits, fits, nodes, htemplates, node, hnode, rfl⟩ | ⟨nodes, hlinks, node, hnode, rfl⟩ := h
  · obtain ⟨site, brace, hbrace, hof⟩ := exists_brace_of_mem_templatesOf htemplates hnode
    have hhead : titleMarker ∉ brace.head := fun hmem => hmark (Scan.head_subset hbrace hmem)
    obtain ⟨hsource, hrecord, hnone⟩ := BraceNode.exists_source hof
    refine ⟨hsource, fun record hown => ?_, _, brace.head, by rw [Node.origin?, hrecord]; rfl, hhead, rfl, rfl, _,
      Or.inl ⟨_, rfl⟩, BraceNode.render_ofRecord hhead (Scan.piped_of_mem_braces hbrace) hof⟩
    obtain rfl := Option.some.inj (hrecord.symm.trans hown)
    exact ⟨brace.arguments, rfl⟩
  · obtain ⟨record, hof, bracket, hbracket, horigin, -⟩ := exists_bracket_of_mem_links hlinks hnode
    have htarget : titleMarker ∉ bracket.target := fun hmem => hmark (Scan.target_subset hbracket hmem)
    obtain ⟨hsource, hnone, own, hown, hsame⟩ := LinkNode.exists_source hof
    have hraw : record.rawTitle = rawTitleOf bracket.target record.title := by
      rw [horigin]
      rfl
    refine ⟨hsource, fun _ hrecord => absurd (hnone.symm.trans hrecord) (by simp), record.toOrigin, bracket.target, ?_,
      htarget, by rw [horigin]; rfl, hraw, _, Or.inr ⟨_, rfl⟩, LinkNode.render_ofRecord htarget hraw hof⟩
    rw [Node.origin?, hnone, hown, ← hsame]
    rfl

/-- A node that a page without markers holds, and that is converted to a title, after any edits, is written in its raw
form with the new title in place of the first occurrence of the old one in the head, if the old title occurs there. If it
does not, the head is written again as it is, whatever the new title. Without the raw form the node is written with its
own title, and with the rest as in the raw form. -/
theorem Page.render_converted {page : Page} {node : Node} (hmark : titleMarker ∉ page.text) (hnode : page.Holds node) :
    ∃ o head, node.origin? = some o ∧ o.title = titleOfHead head ∧ o.rawTitle = rawTitleOf head o.title ∧
      (∃ write, IsFrame write ∧ node.render true = .ok (write head)) ∧
      ∀ edits c m, c.NamesTitle → (node.run edits).converted c = .ok (some m) →
        ∃ s write canonical, c.titleText? = some s ∧ m.canonicalTitle? = some canonical ∧ IsFrame write ∧
          m.render = .ok (write canonical) ∧ m.render true = .ok (write (retitled head o.title o.hasMarker s)) := by
  obtain ⟨⟨source, hbuild⟩, hseeds, o, head, horigin, hhead, htitle, hraw, hwritten⟩ := hnode.exists_head hmark
  refine ⟨o, head, horigin, htitle, hraw, hwritten, fun edits c m hc hm => ?_⟩
  have hpristine : (node.run edits).pristine = .ok node :=
    (node.pristine_run edits).trans (Node.pristine_of_build hbuild)
  obtain ⟨hbrace, hlink⟩ := Node.records_of_pristine hpristine
  have hedited : (node.run edits).origin? = some o := by rw [Node.origin?, hbrace, hlink, ← Node.origin?, horigin]
  obtain ⟨s, hs, hrenamed⟩ := Node.exists_of_converted hedited (hbrace ▸ hseeds) hc hm
  obtain ⟨write, canonical, hcanonical, hframe, hplain, hraw'⟩ := hrenamed.render hraw hhead
  exact ⟨s, write, canonical, hs, hcanonical, hframe, hplain, hraw'⟩

/-- A page with a raw template that has a comment behind its title. -/
def relativePage : Page where
  text := "\x7b\x7b ../a <!-- c -->|x\x7d\x7d".toList
  site := some braceSampleSite
  skipTags := []

/-- What the scan finds in `relativePage`. -/
def relativeBrace : Brace where
  span := ⟨0, 22⟩
  written := "\x7b\x7b ../a <!-- c -->|x\x7d\x7d".toList
  head := " ../a <!-- c -->".toList
  arguments := [⟨"|x".toList, none, "x".toList⟩]

theorem braces_relativePage : relativePage.scan.braces = [relativeBrace] := by decide +kernel

def relativeRecord : BraceRecord where
  title := "../a".toList
  rawTitle := " \x01 <!-- c -->".toList
  written := relativeBrace.written
  span := relativeBrace.span
  seeds := [{ value := .text "x".toList, source := .text "|x".toList }]

theorem braceRecords_relativePage : relativePage.braceRecords = [relativeRecord] := by
  have htitle : titleOfHead relativeBrace.head = "../a".toList := by
    have hfront : Uncommented " ../a ".toList " ../a ".toList := .of_notMem (by decide)
    have hend : stripComments "<!-- c -->".toList = [] :=
      (Uncommented.drop (by decide : ¬ _ <:+: " c ".toList ++ _) .nil).stripComments_eq_kept
    exact congrArg Text.trim ((hfront.stripComments_append _).trans (congrArg _ hend))
  exact Page.braceRecords_of_braces rfl braces_relativePage htitle

/-- The new title takes the place of the old one beside the comment. -/
theorem Page.render_converted_relative :
    ∃ t m head, ∃ write : Text → Text, relativePage.templates = .ok [.raw t] ∧
      (Node.rawTemplate t).converted (.toTemplate (.text "Bar".toList) .null false) = .ok (some m) ∧
      m.render true = .ok "\x7b\x7b Bar <!-- c -->|x\x7d\x7d".toList ∧ IsFrame write ∧
      (Node.rawTemplate t).origin?.map (·.title) = some (titleOfHead head) ∧
      m.render true = .ok (write (Text.replaceFirst (titleOfHead head) "Bar".toList head)) := by
  obtain ⟨t, m, ht, hrecord, hm, hwritten⟩ : ∃ (t : RawTemplate) (m : Node),
      relativePage.templatesOf [relativeRecord] = .ok [.raw t] ∧ t.record = relativeRecord ∧
      (Node.rawTemplate t).converted (.toTemplate (.text "Bar".toList) .null false) = .ok (some m) ∧
      m.render true = .ok "\x7b\x7b Bar <!-- c -->|x\x7d\x7d".toList := ⟨_, _, rfl, rfl, rfl, rfl⟩
  have htemplates : relativePage.templates = .ok [.raw t] := by
    rw [templates, braceRecords_relativePage, ht]
  have hholds : relativePage.Holds (Node.rawTemplate t) :=
    Or.inl ⟨_, _, _, _, htemplates, .raw t, List.mem_cons_self, rfl⟩
  obtain ⟨o, head, horigin, htitle, -, -, hconverted⟩ := render_converted (by decide) hholds
  obtain ⟨s, write, -, hs, -, hframe, -, hraw⟩ := hconverted [] _ m (by simp [Node.Conversion.NamesTitle]) hm
  obtain rfl : "Bar".toList = s := Option.some.inj hs
  have hmarker : o.hasMarker = true := by
    rw [← Option.some.inj horigin, hrecord]
    rfl
  rw [hmarker, htitle] at hraw
  exact ⟨t, m, head, write, htemplates, hm, hwritten, hframe, by rw [horigin, ← htitle]; rfl, hraw⟩

/-- A page with a link in whose title a comment stands. -/
def dividedPage : Page where
  text := "[[F<!-- -->oo|x]]".toList
  site := some (Site.ofParts .null
    [⟨0, some [], none, [], .null⟩, ⟨6, some "File".toList, some "File".toList, [], .null⟩] [] [] [])
  skipTags := []

/-- What the scan finds in `dividedPage`. -/
def dividedBracket : Bracket where
  span := ⟨0, 17⟩
  written := "[[F<!-- -->oo|x]]".toList
  target := "F<!-- -->oo".toList
  display := some "x".toList

theorem scan_dividedPage : dividedPage.scan.braces = [] ∧ dividedPage.scan.brackets = [dividedBracket] := by
  decide +kernel

def dividedRecord : LinkRecord where
  title := "Foo".toList
  rawTitle := dividedBracket.target
  written := dividedBracket.written
  span := dividedBracket.span
  display := some "x".toList

/-- A link whose title a comment divides has no place for another title, and is written with the old one when it was
made a link that embeds a file. -/
theorem Page.render_converted_divided :
    titleMarker ∉ dividedPage.text ∧ ∃ link m, dividedPage.links = .ok [.page link] ∧ link.record.hasMarker = false ∧
      (Node.scannedLink link).converted (.toFileLink (.text "File:X.png".toList) false) = .ok (some m) ∧
      m.render = .ok "[[File:X.png|x]]".toList ∧ m.render true = .ok "[[F<!-- -->oo|x]]".toList := by
  have htitle : titleOfHead dividedBracket.target = "Foo".toList := by
    have hbehind : Uncommented "oo".toList "oo".toList := .of_notMem (by decide)
    have hkept : Uncommented dividedBracket.target "Foo".toList :=
      .keep (by decide) (hbehind.drop (by decide : ¬ _ <:+: " ".toList ++ _))
    rw [titleOfHead, hkept.stripComments_eq_kept]
    rfl
  have hrecord : dividedPage.linkRecords = [dividedRecord] :=
    linkRecords_of_brackets rfl scan_dividedPage.1 scan_dividedPage.2 htitle
  obtain ⟨link, m, hlink, hmarker, hm, hplain, hraw⟩ : ∃ (link : ScannedLink) (m : Node),
      dividedPage.linksOf [dividedRecord] = .ok [.page link] ∧ link.record.hasMarker = false ∧
      (Node.scannedLink link).converted (.toFileLink (.text "File:X.png".toList) false) = .ok (some m) ∧
      m.render = .ok "[[File:X.png|x]]".toList ∧ m.render true = .ok "[[F<!-- -->oo|x]]".toList :=
    ⟨_, _, rfl, rfl, rfl, rfl, rfl⟩
  exact ⟨by decide, link, m, by rw [links, hrecord, hlink], hmarker, hm, hplain, hraw⟩

end PageMarkup
