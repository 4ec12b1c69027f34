import PageMarkup.Node
import PageMarkup.Proofs.Outcome
import PageMarkup.Proofs.RawTitle
import PageMarkup.Proofs.Scan.Faithful
import PageMarkup.Proofs.Scan.Cut

/-!
# Links written back

A link that was made from a scanned one and was not changed since is written, in its raw form, as it was found.
A link to a page and a raw link show what was displayed as it was written, whatever of it counts as the display; a
link that embeds a file joins the pieces that its display was split into. The scan has to be right in one thing,
that target and display make up the text of the link (`Bracket.Faithful`).
-/
namespace PageMarkup

/-! ## What is displayed -/

/-- A display that was not changed is written as it was found, an empty one and none at all included. -/
theorem LinkRecord.displayPart_self (record : LinkRecord) :
    record.displayPart (record.display.bind displayOf) (record.display.bind displayOf) = record.display := by
  unfold displayPart
  rw [if_pos rfl]
  cases record.display <;> rfl

@[simp] theorem Slots.strings_map_some (texts : List Text) : (⟨texts.map some⟩ : Slots).strings = texts := by
  rw [strings, List.map_map]
  exact List.map_id texts

/-- The pieces of a display are written as the display, and no pieces as none. -/
theorem FileLink.paramsPart_paramsOf (title : Title) (display : Option Text) :
    FileLink.paramsPart ⟨title, ⟨(LinkNode.paramsOf display).map some⟩⟩ none = display := by
  cases display with
  | none => rfl
  | some display =>
    have hne := splitTopLevel_ne_nil display ['|']
    have hjoin := joinWith_splitTopLevel display '|'
    simp [paramsPart, LinkNode.paramsOf, hne, hjoin]

/-! ## Links -/

section

variable {site : Option Site} {record : LinkRecord} {target : Text}

/-- A link to a page is written as its target and its display. -/
theorem ScannedLink.render_ofRecord {link : ScannedLink} (hmark : titleMarker ∉ target)
    (hraw : record.rawTitle = rawTitleOf target record.title) (h : ofRecord site record = .ok link) :
    link.render true = writeBrackets target record.display := by
  unfold ofRecord at h
  obtain ⟨title, -, h⟩ := Outcome.bind_eq_ok.mp h
  obtain rfl := Except.ok.inj h
  have htitle := fun current => Origin.titlePart_eq_head current hraw hmark
  simp [render, titlePart, htitle, LinkRecord.displayPart_self]

/-- A raw link is written as its target and its display. -/
theorem ScannedRawLink.render_ofRecord (hmark : titleMarker ∉ target)
    (hraw : record.rawTitle = rawTitleOf target record.title) :
    (ofRecord site record).render true = writeBrackets target record.display := by
  have htitle := fun current => Origin.titlePart_eq_head current hraw hmark
  simp [render, ofRecord, titlePart, htitle, LinkRecord.displayPart_self]

/-- A link that embeds a file is written as its target and the display that its parameters were split from. -/
theorem ScannedFileLink.render_ofRecord {display : Option Text} {link : ScannedFileLink} (hmark : titleMarker ∉ target)
    (hraw : record.rawTitle = rawTitleOf target record.title)
    (hparams : record.params = some (LinkNode.paramsOf display)) (h : ofRecord site record = .ok link) :
    link.render true = writeBrackets target display := by
  unfold ofRecord at h
  obtain ⟨title, -, h⟩ := Outcome.bind_eq_ok.mp h
  obtain rfl := Except.ok.inj h
  have htitle := fun current => Origin.titlePart_eq_head current hraw hmark
  simp [render, titlePart, htitle, hparams, FileLink.paramsPart_paramsOf]

theorem ScannedLink.record_ofRecord {link : ScannedLink} (h : ofRecord site record = .ok link) :
    link.record = record := by
  unfold ofRecord at h
  obtain ⟨title, -, h⟩ := Outcome.bind_eq_ok.mp h
  obtain rfl := Except.ok.inj h
  rfl

theorem ScannedFileLink.record_ofRecord {link : ScannedFileLink} (h : ofRecord site record = .ok link) :
    link.record = record := by
  unfold ofRecord at h
  obtain ⟨title, -, h⟩ := Outcome.bind_eq_ok.mp h
  obtain rfl := Except.ok.inj h
  rfl

/-- What a record becomes: a link that embeds a file, with parameters in place of the display, a link to a page, or a
raw link. -/
theorem LinkNode.ofRecord_eq_ok {node : LinkNode} (h : ofRecord site record = .ok node) :
    (∃ link, ScannedFileLink.ofRecord site
        { record with display := none, params := some (paramsOf record.display) } = .ok link ∧ node = file link) ∨
    (∃ link, ScannedLink.ofRecord site record = .ok link ∧ node = page link) ∨
    node = raw (ScannedRawLink.ofRecord site record) := by
  unfold ofRecord at h
  split at h
  · split at h
    · obtain ⟨link, hlink, rfl⟩ := Outcome.map_eq_ok.mp h
      exact Or.inl ⟨link, hlink, rfl⟩
    · obtain ⟨link, hlink, rfl⟩ := Outcome.map_eq_ok.mp h
      exact Or.inr (Or.inl ⟨link, hlink, rfl⟩)
  · exact Or.inr (Or.inr (Except.ok.inj h).symm)
  · simp at h

/-- A link that describes a scanned one is written, in its raw form, as its target and its display. -/
theorem LinkNode.render_ofRecord {node : LinkNode} (hmark : titleMarker ∉ target)
    (hraw : record.rawTitle = rawTitleOf target record.title) (h : ofRecord site record = .ok node) :
    (Node.ofLink node).render true = .ok (writeBrackets target record.display) := by
  obtain ⟨link, hlink, rfl⟩ | ⟨link, hlink, rfl⟩ | rfl := ofRecord_eq_ok h
  · refine congrArg Except.ok (ScannedFileLink.render_ofRecord hmark ?_ ?_ hlink)
    · exact hraw
    · rfl
  · exact congrArg Except.ok (ScannedLink.render_ofRecord hmark hraw hlink)
  · exact congrArg Except.ok (ScannedRawLink.render_ofRecord hmark hraw)

/-- A link keeps where it was found, how it was written, and its place among the links. Only what it displays is kept
in another form by a link that embeds a file. -/
theorem LinkNode.record_ofRecord {node : LinkNode} (h : ofRecord site record = .ok node) :
    ∃ display params, node.record = { record with display, params } := by
  obtain ⟨link, hlink, rfl⟩ | ⟨link, hlink, rfl⟩ | rfl := ofRecord_eq_ok h
  · exact ⟨_, _, ScannedFileLink.record_ofRecord hlink⟩
  · exact ⟨_, _, ScannedLink.record_ofRecord hlink⟩
  · exact ⟨_, _, rfl⟩

end

/-! ## Pages -/

/-- A record of a link comes from a link that the scan has found. -/
theorem exists_bracket_of_mem_linkRecordsOf {braces skipped : List Scan.Span} {links : List Bracket}
    {record : LinkRecord} (h : record ∈ linkRecordsOf braces skipped links) :
    ∃ link ∈ links, record.toOrigin = Origin.ofHead link.target link.written link.span braces skipped ∧
      record.display = link.display := by
  obtain ⟨⟨⟨link, parent⟩, index⟩, hentry, rfl⟩ := List.mem_map.mp h
  have hpair : (link, parent) ∈ links.zip (parentsOf (links.map (·.span))) :=
    List.fst_mem_of_mem_zipIdx hentry
  exact ⟨link, (List.of_mem_zip hpair).1, rfl, rfl⟩

/-- A link of a page comes from a link that the scan has found. -/
theorem Page.exists_bracket_of_mem_links {page : Page} {nodes : List LinkNode} (h : page.links = .ok nodes)
    {node : LinkNode} (hnode : node ∈ nodes) :
    ∃ record, LinkNode.ofRecord page.site record = .ok node ∧ ∃ link ∈ page.scan.brackets,
      record.toOrigin = Origin.ofHead link.target link.written link.span (page.scan.braces.map (·.span))
        (page.skipSpans page.scan) ∧ record.display = link.display := by
  obtain ⟨all, hall, hrest⟩ := Outcome.bind_eq_ok.mp h
  have hsame : all = nodes := by
    split at hrest
    · simp [bind, Except.bind] at hrest
    · exact Except.ok.inj hrest
  obtain ⟨record, hrecord, hof⟩ := Outcome.exists_of_mem_mapM hall (hsame ▸ hnode)
  exact ⟨record, hof, exists_bracket_of_mem_linkRecordsOf hrecord⟩

/-- The record of the only link on a page that skips nothing and has no double braces. -/
theorem Page.linkRecords_of_brackets {page : Page} {link : Bracket} (hskip : page.skipTags = [])
    (hbraces : page.scan.braces = []) (hbrackets : page.scan.brackets = [link]) {title : Text}
    (htitle : titleOfHead link.target = title) :
    page.linkRecords =
      [{ title, rawTitle := rawTitleOf link.target title, written := link.written, span := link.span
         display := link.display }] := by
  subst htitle
  simp [linkRecords, linkRecordsOf, skipSpans, hskip, hbraces, hbrackets, Origin.ofHead, parentsOf, parentOf?, childrenOf]

/-- Every link of a text without markers is written, in its raw form, as it stands in the text. -/
theorem Page.render_linksOf_eq_slice (page : Page) (braces skipped : List Scan.Span) (links : List Bracket)
    (nodes : List LinkNode) (hmark : titleMarker ∉ page.text) (hfaithful : ∀ link ∈ links, link.Faithful page.text)
    (h : page.linksOf (linkRecordsOf braces skipped links) = .ok nodes) :
    ∀ node ∈ nodes, (Node.ofLink node).render true = .ok node.record.written ∧
      node.record.written = Text.slice node.record.span.start node.record.span.stop page.text := by
  intro node hnode
  obtain ⟨all, hall, hrest⟩ := Outcome.bind_eq_ok.mp h
  have hsame : all = nodes := by
    split at hrest
    · simp [bind, Except.bind] at hrest
    · exact Except.ok.inj hrest
  subst hsame
  obtain ⟨record, hrecord, hof⟩ := Outcome.exists_of_mem_mapM hall hnode
  obtain ⟨link, hlink, horigin, hdisplay⟩ := exists_bracket_of_mem_linkRecordsOf hrecord
  obtain ⟨display, params, hkept⟩ := LinkNode.record_ofRecord hof
  have hlinkFaithful := hfaithful link hlink
  have hkeptOrigin : node.record.toOrigin = Origin.ofHead link.target link.written link.span braces skipped := by
    rw [hkept, ← horigin]
  have hraw : record.rawTitle = rawTitleOf link.target record.title := by rw [horigin]; rfl
  have hwritten : node.record.written = link.written := by rw [hkeptOrigin]; rfl
  have hspan : node.record.span = link.span := by rw [hkeptOrigin]; rfl
  refine ⟨?_, ?_⟩
  · rw [LinkNode.render_ofRecord (hlinkFaithful.notMem_target hmark) hraw hof, hdisplay, hwritten,
      hlinkFaithful.written_eq_parts]
    cases link.display <;> simp [writeBrackets]
  · rw [hwritten, hspan]
    exact hlinkFaithful.written_eq_slice

/-- A page with a file, a link with blanks around its title and its display, and a link whose title is none. -/
def linkSamplePage : Page where
  text := "[[File:A.png]] [[ b | x ]] [[<|]]".toList
  site := some (Site.ofParts .null
    [⟨0, some [], none, [], .null⟩, ⟨6, some "File".toList, some "File".toList, [], .null⟩] [] [] [])
  skipTags := []

/-- The links of `linkSamplePage`. -/
def linkSample : List Bracket :=
  [{ span := ⟨0, 14⟩, written := "[[File:A.png]]".toList, target := "File:A.png".toList, display := none },
   { span := ⟨15, 26⟩, written := "[[ b | x ]]".toList, target := " b ".toList, display := some " x ".toList },
   { span := ⟨27, 33⟩, written := "[[<|]]".toList, target := "<".toList, display := some [] }]

theorem Page.render_linksOf_linkSample :
    ∃ f l r, linkSamplePage.linksOf (linkRecordsOf [] [] linkSample) = .ok [.file f, .page l, .raw r] ∧
      ∀ node ∈ [LinkNode.file f, .page l, .raw r], (Node.ofLink node).render true = .ok node.record.written ∧
        node.record.written = Text.slice node.record.span.start node.record.span.stop linkSamplePage.text := by
  have hmark : titleMarker ∉ linkSamplePage.text := by decide
  have hfaithful : ∀ link ∈ linkSample, link.Faithful linkSamplePage.text := by
    intro link hlink
    simp only [linkSample, List.mem_cons, List.not_mem_nil, or_false] at hlink
    obtain rfl | rfl | rfl := hlink
    · exact ⟨rfl, rfl⟩
    · exact ⟨rfl, rfl⟩
    · exact ⟨rfl, rfl⟩
  refine ⟨_, _, _, rfl, ?_⟩
  exact render_linksOf_eq_slice linkSamplePage [] [] linkSample _ hmark hfaithful rfl

end PageMarkup
