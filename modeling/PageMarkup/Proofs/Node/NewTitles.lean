import PageMarkup.Proofs.Node.Edits
import PageMarkup.Proofs.Page.BraceRoundTrip
import PageMarkup.Proofs.Page.LinkRoundTrip
import PageMarkup.Proofs.Scan.Stripping
import PageMarkup.Proofs.Title.Rendered

/-!
# New titles in their heads

A scanned template or link that is given another title is written, in its raw form, with the new title in place of the
first occurrence of the old one in the head, and nothing else changes. Where that occurrence stands outside of comments,
the head is then one with the new title (`titleOfHead_replaceFirst`); where it is a part of a comment, the head keeps the
old title (`titleOfHead_replaceFirst_of_comment`).
-/
namespace PageMarkup

/-! ## Heads -/

/-- Whether the first occurrence of the title in the head begins outside of comments: what stands before it is made of
whole comments and of characters that open no tag. -/
def StandsOutside (title head : Text) : Prop :=
  ∃ i kept, Text.find? title head = some i ∧ Uncommented (head.take i) kept

section

variable {head title written : Text}

/-- A new title that takes the place of the old one outside of comments is what is left of the head without comments and
outer blanks. -/
theorem titleOfHead_replaceFirst (hread : titleOfHead head = title) (hne : title ≠ [])
    (hplace : StandsOutside title head) (hopen : '<' ∉ title) (hnew : '<' ∉ written) :
    titleOfHead (Text.replaceFirst title written head) = Text.trim written := by
  obtain ⟨i, kept, hfind, hkept⟩ := hplace
  generalize hbehind : head.drop (i + title.length) = behind
  have hstrip : ∀ s : Text, '<' ∉ s →
      stripComments (head.take i ++ s ++ behind) = kept ++ s ++ stripComments behind := by
    intro s hs
    rw [List.append_assoc, hkept.stripComments_append, (Uncommented.of_notMem hs).stripComments_append,
      List.append_assoc]
  have htrim : Text.trim (kept ++ title ++ stripComments behind) = title := by
    rw [← hstrip title hopen, ← hbehind, ← Text.find?_eq_some hfind]
    exact hread
  have hfront : ∀ c ∈ kept, isBlank c = true :=
    Text.forall_isBlank_of_trim_append hne (htrim.trans (List.append_nil _).symm) (Or.inl rfl)
  have hback : ∀ c ∈ stripComments behind, isBlank c = true := by
    have hstart : Text.trimStart title = title := by
      rw [← htrim]
      exact Text.trimStart_trim _
    rw [Text.trim, List.append_assoc, Text.trimStart_append_of_forall _ hfront,
      Text.trimStart_append_of_ne_nil _ (by rwa [hstart]), hstart] at htrim
    exact Text.forall_isBlank_of_trimEnd_append hne htrim
  calc titleOfHead (Text.replaceFirst title written head)
      = Text.trim (kept ++ written ++ stripComments behind) := by
        rw [titleOfHead, Text.replaceFirst_of_find? _ hfind, hbehind, hstrip written hnew]
    _ = Text.trim (written ++ stripComments behind) := by
        rw [Text.trim, List.append_assoc, Text.trimStart_append_of_forall _ hfront, Text.trim]
    _ = Text.trim written := by
        rw [← Text.trimStart_trimEnd, Text.trimEnd_append_of_forall _ hback, Text.trimStart_trimEnd]

/-- A new title that takes the place of the old one in a comment makes no difference to what is left of the head. -/
theorem titleOfHead_replaceFirst_of_comment {before inner rest behind kept : Text} (hbefore : Uncommented before kept)
    (hhead : head = before ++ commentOpening ++ inner ++ title ++ rest ++ commentClosing ++ behind)
    (hfind : Text.find? title head = some (before ++ commentOpening ++ inner).length)
    (hold : ¬ commentClosing <:+: inner ++ title ++ rest ++ ['-', '-'])
    (hnew : ¬ commentClosing <:+: inner ++ written ++ rest ++ ['-', '-']) :
    titleOfHead (Text.replaceFirst title written head) = titleOfHead head := by
  have hstrip : ∀ s : Text, ¬ commentClosing <:+: inner ++ s ++ rest ++ ['-', '-'] →
      stripComments (before ++ commentOpening ++ inner ++ s ++ rest ++ commentClosing ++ behind) =
        kept ++ stripComments behind := by
    intro s hs
    have hcomment := stripComments_comment_append hs behind
    rw [← hcomment, ← hbefore.stripComments_append]
    simp
  have hreplace : Text.replaceFirst title written head =
      before ++ commentOpening ++ inner ++ written ++ rest ++ commentClosing ++ behind := by
    have hpieces : head = before ++ commentOpening ++ inner ++ title ++ (rest ++ commentClosing ++ behind) := by
      simp [hhead]
    rw [hpieces] at hfind ⊢
    rw [Text.replaceFirst_append written hfind]
    simp
  rw [titleOfHead, hreplace, hstrip written hnew, titleOfHead, hhead, hstrip title hold]

end

/-- Whether a new title is read where it takes the place of the old one: on a site whose names have no outer blanks, the
old title stands outside of comments, and neither of the two texts opens a tag. -/
structure Replaceable (site : Site) (head title written : Text) : Prop where
  made : site.Made
  names : site.NamesTrimmed
  outside : StandsOutside title head
  old : '<' ∉ title
  new : '<' ∉ written

theorem Origin.mem_rawTitleOf {o : Origin} {head : Text} (hraw : o.rawTitle = rawTitleOf head o.title)
    (hmarker : o.hasMarker = true) : titleMarker ∈ rawTitleOf head o.title := by
  rw [← hraw]
  simpa [hasMarker] using hmarker

/-- The title part of a node with another title than the one that was read, if there is a marker for it. -/
theorem Origin.titlePart_of_changed {o : Origin} {head : Text} (hraw : o.rawTitle = rawTitleOf head o.title)
    (hmark : titleMarker ∉ head) (hmarker : o.hasMarker = true) (written : Text) :
    o.titlePart written false = Text.replaceFirst o.title written head := by
  rw [titlePart, if_pos hmarker, hraw]
  exact fillRawTitle_rawTitleOf_of_mem written hmark (mem_rawTitleOf hraw hmarker)

/-! ## Edited nodes -/

namespace Node

/-- An edit keeps a scanned template one, with its record and the title that was read. -/
theorem exists_after_scannedTemplate (t : ScannedTemplate) (edit : Edit) :
    ∃ u, (scannedTemplate t).after edit = scannedTemplate u ∧ u.record = t.record ∧ u.scannedTitle = t.scannedTitle := by
  cases edit with
  | params edit => exact ⟨{ t with params := t.params.after edit }, rfl, rfl, rfl⟩
  | slots edit | hook hook | display display => exact ⟨t, rfl, rfl, rfl⟩
  | title title verbose =>
    unfold after
    split
    · rename_i changed hchanged
      obtain ⟨u, hu, rfl⟩ := exists_of_attempted hchanged
      obtain ⟨v, -, rfl⟩ := Attempt.exists_of_result_bind_map hu
      exact ⟨_, rfl, rfl, rfl⟩
    · exact ⟨t, rfl, rfl, rfl⟩

/-- An edit keeps a scanned link to a page one, with its record and the title that was read. -/
theorem exists_after_scannedLink (link : ScannedLink) (edit : Edit) :
    ∃ u, (scannedLink link).after edit = scannedLink u ∧ u.record = link.record ∧
      u.scannedTitle = link.scannedTitle := by
  cases edit with
  | params edit | slots edit | hook hook => exact ⟨link, rfl, rfl, rfl⟩
  | title title verbose =>
    unfold after
    split
    · rename_i changed hchanged
      obtain ⟨u, hu, rfl⟩ := exists_of_attempted hchanged
      obtain ⟨v, -, rfl⟩ := Attempt.exists_of_result_bind_map hu
      exact ⟨_, rfl, rfl, rfl⟩
    · exact ⟨link, rfl, rfl, rfl⟩
  | display display =>
    unfold after
    split
    · rename_i changed hchanged
      obtain ⟨node, hnode, hsome⟩ := Outcome.map_eq_ok.mp hchanged
      obtain rfl := Option.some.inj hsome
      obtain ⟨u, hu, rfl⟩ := Outcome.map_eq_ok.mp hnode
      obtain ⟨shown, -, hpure⟩ := Outcome.bind_eq_ok.mp hu
      obtain rfl := Except.ok.inj hpure
      exact ⟨_, rfl, rfl, rfl⟩
    · exact ⟨link, rfl, rfl, rfl⟩

theorem exists_run_scannedTemplate (t : ScannedTemplate) (edits : List Edit) :
    ∃ u, (scannedTemplate t).run edits = scannedTemplate u ∧ u.record = t.record ∧ u.scannedTitle = t.scannedTitle := by
  refine run_induction (P := fun node => ∃ u, node = scannedTemplate u ∧ u.record = t.record ∧
    u.scannedTitle = t.scannedTitle) ?_ ⟨t, rfl, rfl, rfl⟩ edits
  rintro _ edit ⟨v, rfl, hrecord, htitle⟩
  obtain ⟨u, hafter, hrecord', htitle'⟩ := exists_after_scannedTemplate v edit
  exact ⟨u, hafter, hrecord'.trans hrecord, htitle'.trans htitle⟩

theorem exists_run_scannedLink (link : ScannedLink) (edits : List Edit) :
    ∃ u, (scannedLink link).run edits = scannedLink u ∧ u.record = link.record ∧
      u.scannedTitle = link.scannedTitle := by
  refine run_induction (P := fun node => ∃ u, node = scannedLink u ∧ u.record = link.record ∧
    u.scannedTitle = link.scannedTitle) ?_ ⟨link, rfl, rfl, rfl⟩ edits
  rintro _ edit ⟨v, rfl, hrecord, htitle⟩
  obtain ⟨u, hafter, hrecord', htitle'⟩ := exists_after_scannedLink v edit
  exact ⟨u, hafter, hrecord'.trans hrecord, htitle'.trans htitle⟩

end Node

/-! ## New titles -/

theorem ScannedTemplate.scannedTitle_ofRecord {site : Option Site} {record : BraceRecord} {hierarchies : Value}
    {t : ScannedTemplate} (h : ofRecord site record hierarchies = .ok t) : t.scannedTitle = t.title := by
  obtain ⟨title, -, h⟩ := Outcome.bind_eq_ok.mp h
  obtain ⟨chains, -, h⟩ := Outcome.bind_eq_ok.mp h
  obtain ⟨params, -, h⟩ := Outcome.bind_eq_ok.mp h
  obtain rfl := Except.ok.inj h
  rfl

theorem ScannedLink.scannedTitle_ofRecord {site : Option Site} {record : LinkRecord} {link : ScannedLink}
    (h : ofRecord site record = .ok link) : link.scannedTitle = link.title := by
  obtain ⟨title, -, h⟩ := Outcome.bind_eq_ok.mp h
  obtain rfl := Except.ok.inj h
  rfl

theorem ScannedTemplate.render_eq_map (t : ScannedTemplate) (raw : Bool) :
    t.render raw = writeBraces (t.titlePart raw) <$>
      ({} : TemplateStyle).tableText t.params (t.params.asScanned? t.scannedParams t.record.seeds) := by
  simp only [render, TemplateStyle.headText_default]
  rfl

section

variable {head : Text} {title : Value} {verbose : Bool}

/-- A template that is given another title is written with that in place of the old one. -/
theorem ScannedTemplate.render_setTitle {t changed : ScannedTemplate}
    (hraw : t.record.rawTitle = rawTitleOf head t.record.title) (hread : titleOfHead head = t.record.title)
    (hmark : titleMarker ∉ head) (hmarker : t.record.hasMarker = true)
    (h : Attempt.result <$> t.setTitle title verbose = .ok (some changed))
    (hnew : changed.title.same t.scannedTitle = false) :
    ∃ params : Except Fault Text, t.render true = writeBraces (t.titlePart true) <$> params ∧
      changed.render true = writeBraces (Text.replaceFirst t.record.title changed.titleText head) <$> params ∧
      (Replaceable changed.title.site head t.record.title changed.titleText →
        titleOfHead (Text.replaceFirst t.record.title changed.titleText head) = changed.titleText) := by
  obtain ⟨u, hu, rfl⟩ := Attempt.exists_of_result_bind_map h
  obtain ⟨read, hfits, hpure⟩ := Outcome.bind_eq_ok.mp hu
  obtain rfl := Except.ok.inj hpure
  refine ⟨_, t.render_eq_map true, ?_, fun hplace => ?_⟩
  · rw [render_eq_map, titlePart, if_pos rfl, hnew]
    rw [Origin.titlePart_of_changed hraw hmark hmarker]
  · obtain ⟨⟨given, fallback, hgiven⟩, -⟩ := Title.read_of_transcluded hfits
    have hne := (exists_find?_of_mem hmark (Origin.mem_rawTitleOf hraw hmarker)).1
    rw [titleOfHead_replaceFirst hread hne hplace.outside hplace.old hplace.new]
    exact Template.trim_titleText hplace.made hplace.names hgiven

/-- A link that is given another title is written with that in place of the old one. -/
theorem ScannedLink.render_setTitle {link changed : ScannedLink}
    (hraw : link.record.rawTitle = rawTitleOf head link.record.title) (hread : titleOfHead head = link.record.title)
    (hmark : titleMarker ∉ head) (hmarker : link.record.hasMarker = true)
    (h : Attempt.result <$> link.setTitle title verbose = .ok (some changed))
    (hnew : changed.title.same link.scannedTitle = false) :
    ∃ display : Option Text, link.render true = writeBrackets (link.titlePart true) display ∧
      changed.render true =
        writeBrackets (Text.replaceFirst link.record.title (changed.title.render true true) head) display ∧
      (Replaceable changed.title.site head link.record.title (changed.title.render true true) →
        titleOfHead (Text.replaceFirst link.record.title (changed.title.render true true) head) =
          changed.title.render true true) := by
  obtain ⟨u, hu, rfl⟩ := Attempt.exists_of_result_bind_map h
  obtain ⟨read, hfits, hpure⟩ := Outcome.bind_eq_ok.mp hu
  obtain rfl := Except.ok.inj hpure
  refine ⟨_, rfl, ?_, fun hplace => ?_⟩
  · rw [render, titlePart, if_pos rfl, hnew]
    rw [Origin.titlePart_of_changed hraw hmark hmarker]
  · have hlinked := Title.linked_of_targeted hfits
    obtain ⟨given, fallback, hgiven⟩ := Title.read_of_linked hlinked
    rw [← Title.site_of_linked hlinked] at hgiven
    have hne := (exists_find?_of_mem hmark (Origin.mem_rawTitleOf hraw hmarker)).1
    rw [titleOfHead_replaceFirst hread hne hplace.outside hplace.old hplace.new]
    exact Title.trim_render hplace.made hplace.names hgiven

end

/-- Templates and links to pages that a page without markers holds take new titles in the place of the ones that were
read. However such a node was edited before, a title that is not the one that was read is written, in its raw form, in
place of the first occurrence of that one in the head, and all else is written as it was; where the old title stands
outside of comments, what is left of the head without comments and outer blanks is the new title. -/
theorem Page.titleOfHead_of_setTitle {page : Page} (hmark : titleMarker ∉ page.text) :
    (∀ {hierarchies titleFits fits nodes t}, page.templates hierarchies titleFits fits = .ok nodes →
      .template t ∈ nodes → t.record.hasMarker = true →
      ∃ brace ∈ page.scan.braces,
        t.record = BraceRecord.ofBrace (page.scan.braces.map (·.span)) (page.skipSpans page.scan) brace ∧
        t.render true = .ok (writeBraces brace.head (brace.arguments.flatMap (·.written))) ∧
        ∀ edits, ∃ u, (Node.scannedTemplate t).run edits = .scannedTemplate u ∧
          ∀ title verbose changed, Attempt.result <$> u.setTitle title verbose = .ok (some changed) →
            changed.title.same t.title = false →
            ∃ params : Except Fault Text, u.render true = writeBraces (u.titlePart true) <$> params ∧
              changed.render true =
                writeBraces (Text.replaceFirst t.record.title changed.titleText brace.head) <$> params ∧
              (Replaceable changed.title.site brace.head t.record.title changed.titleText →
                titleOfHead (Text.replaceFirst t.record.title changed.titleText brace.head) = changed.titleText)) ∧
    (∀ {nodes link}, page.links = .ok nodes → .page link ∈ nodes → link.record.hasMarker = true →
      ∃ bracket ∈ page.scan.brackets,
        link.record.toOrigin = Origin.ofHead bracket.target bracket.written bracket.span
          (page.scan.braces.map (·.span)) (page.skipSpans page.scan) ∧
        link.render true = writeBrackets bracket.target bracket.display ∧
        ∀ edits, ∃ u, (Node.scannedLink link).run edits = .scannedLink u ∧
          ∀ title verbose changed, Attempt.result <$> u.setTitle title verbose = .ok (some changed) →
            changed.title.same link.title = false →
            ∃ display : Option Text, u.render true = writeBrackets (u.titlePart true) display ∧
              changed.render true =
                writeBrackets
                  (Text.replaceFirst link.record.title (changed.title.render true true) bracket.target) display ∧
              (Replaceable changed.title.site bracket.target link.record.title (changed.title.render true true) →
                titleOfHead (Text.replaceFirst link.record.title (changed.title.render true true) bracket.target) =
                  changed.title.render true true)) := by
  constructor
  · intro hierarchies titleFits fits nodes t h ht hmarker
    obtain ⟨site, chains, brace, hbrace, hown⟩ := exists_brace_of_template_mem h ht
    have hhead : titleMarker ∉ brace.head := fun hmem => hmark (Scan.head_subset hbrace hmem)
    have hrecord := ScannedTemplate.record_ofRecord hown
    refine ⟨brace, hbrace, hrecord, ScannedTemplate.render_ofRecord rfl hhead rfl hown, fun edits => ?_⟩
    obtain ⟨u, hrun, hkept, htitle⟩ := Node.exists_run_scannedTemplate t edits
    refine ⟨u, hrun, fun title verbose changed hset hnew => ?_⟩
    rw [← ScannedTemplate.scannedTitle_ofRecord hown, ← htitle] at hnew
    rw [← hkept] at hmarker hrecord ⊢
    exact ScannedTemplate.render_setTitle (by rw [hrecord]; rfl) (by rw [hrecord]; rfl) hhead hmarker hset hnew
  · intro nodes link h hlink hmarker
    obtain ⟨record, hof, bracket, hbracket, horigin, hdisplay⟩ := exists_bracket_of_mem_links h hlink
    have htarget : titleMarker ∉ bracket.target := fun hmem => hmark (Scan.target_subset hbracket hmem)
    obtain ⟨own, -, hnode⟩ | ⟨own, hown, hnode⟩ | hnode := LinkNode.ofRecord_eq_ok hof
    · simp at hnode
    · obtain rfl := LinkNode.page.inj hnode
      have hrecord := ScannedLink.record_ofRecord hown
      have hraw : record.rawTitle = rawTitleOf bracket.target record.title := by rw [horigin]; rfl
      have hread : titleOfHead bracket.target = record.title := by rw [horigin]; rfl
      refine ⟨bracket, hbracket, hrecord ▸ horigin, ?_, fun edits => ?_⟩
      · rw [ScannedLink.render_ofRecord htarget hraw hown, hdisplay]
      · obtain ⟨u, hrun, hkept, htitle⟩ := Node.exists_run_scannedLink link edits
        refine ⟨u, hrun, fun title verbose changed hset hnew => ?_⟩
        rw [← ScannedLink.scannedTitle_ofRecord hown, ← htitle] at hnew
        rw [← hkept] at hmarker hrecord ⊢
        exact ScannedLink.render_setTitle (hrecord ▸ hraw) (hrecord ▸ hread) htarget hmarker hset hnew
    · simp at hnode

/-- A page with a template that has a comment in front of its title. -/
def commentedPage : Page where
  text := "\x7b\x7b<!-- a --> Foo|x\x7d\x7d".toList
  site := some braceSampleSite
  skipTags := []

/-- What the scan finds in `commentedPage`. -/
def commentedBrace : Brace where
  span := ⟨0, 20⟩
  written := "\x7b\x7b<!-- a --> Foo|x\x7d\x7d".toList
  head := "<!-- a --> Foo".toList
  arguments := [⟨"|x".toList, none, "x".toList⟩]

theorem braces_commentedPage : commentedPage.scan.braces = [commentedBrace] := by decide +kernel

def commentedTemplate : BraceRecord where
  title := "Foo".toList
  rawTitle := "<!-- a --> \x01".toList
  written := commentedBrace.written
  span := commentedBrace.span
  seeds := [{ value := .text "x".toList, source := .text "|x".toList }]

theorem braceRecords_commentedPage : commentedPage.braceRecords = [commentedTemplate] := by
  have htitle : titleOfHead commentedBrace.head = "Foo".toList := by
    have hbehind : Uncommented " Foo".toList " Foo".toList := .of_notMem (by decide)
    have hkept : Uncommented commentedBrace.head " Foo".toList := hbehind.drop (by decide : ¬ _ <:+: " a ".toList ++ _)
    rw [titleOfHead, hkept.stripComments_eq_kept]
    rfl
  exact Page.braceRecords_of_braces rfl braces_commentedPage htitle

/-- A page with a link that has a comment behind its title. -/
def linkedPage : Page where
  text := "[[Foo<!-- b -->|y]]".toList
  site := some braceSampleSite
  skipTags := []

/-- What the scan finds in `linkedPage`. -/
def linkedBracket : Bracket where
  span := ⟨0, 19⟩
  written := "[[Foo<!-- b -->|y]]".toList
  target := "Foo<!-- b -->".toList
  display := some "y".toList

theorem scan_linkedPage : linkedPage.scan.braces = [] ∧ linkedPage.scan.brackets = [linkedBracket] := by decide +kernel

def linkedRecord : LinkRecord where
  title := "Foo".toList
  rawTitle := "\x01<!-- b -->".toList
  written := linkedBracket.written
  span := linkedBracket.span
  display := some "y".toList

theorem linkRecords_linkedPage : linkedPage.linkRecords = [linkedRecord] := by
  have htitle : titleOfHead linkedBracket.target = "Foo".toList := by
    have hend : Uncommented (commentOpening ++ " b ".toList ++ commentClosing ++ []) [] := .drop (by decide) .nil
    have hkept : Uncommented linkedBracket.target "Foo".toList :=
      .keep (by decide) (.keep (by decide) (.keep (by decide) hend))
    rw [titleOfHead, hkept.stripComments_eq_kept]
    rfl
  exact Page.linkRecords_of_brackets rfl scan_linkedPage.1 scan_linkedPage.2 htitle

theorem namesTrimmed_braceSampleSite : braceSampleSite.NamesTrimmed := by
  intro id space name hspace
  simp [Site.namespace?, braceSampleSite, Site.ofParts, Keyed.get?] at hspace

/-- New titles beside comments. -/
theorem Page.titleOfHead_of_setTitle_beside :
    (∃ t changed, commentedPage.templates = .ok [.template t] ∧
      Attempt.result <$> t.setTitle (.text "Bar".toList) = .ok (some changed) ∧
      changed.render true = .ok "\x7b\x7b<!-- a --> Bar|x\x7d\x7d".toList ∧
      titleOfHead (Text.replaceFirst t.record.title changed.titleText commentedBrace.head) = changed.titleText) ∧
    ∃ link changed, linkedPage.links = .ok [.page link] ∧
      Attempt.result <$> link.setTitle (.text "Bar".toList) = .ok (some changed) ∧
      changed.render true = "[[Bar<!-- b -->|y]]".toList ∧
      titleOfHead (Text.replaceFirst link.record.title (changed.title.render true true) linkedBracket.target) =
        changed.title.render true true := by
  have hmade : braceSampleSite.Made := ⟨_, _, _, _, _, rfl⟩
  constructor
  · obtain ⟨t, changed, ht, hrecord, hset, hnew, hsite, htext, hrender⟩ : ∃ t changed : ScannedTemplate,
        commentedPage.templatesOf [commentedTemplate] = .ok [.template t] ∧ t.record = commentedTemplate ∧
        Attempt.result <$> t.setTitle (.text "Bar".toList) = .ok (some changed) ∧
        changed.title.same t.title = false ∧ changed.title.site = braceSampleSite ∧
        changed.titleText = "Bar".toList ∧ changed.render true = .ok "\x7b\x7b<!-- a --> Bar|x\x7d\x7d".toList :=
      ⟨_, _, rfl, rfl, rfl, rfl, rfl, rfl, rfl⟩
    have htemplates : commentedPage.templates = .ok [.template t] := by
      rw [templates, braceRecords_commentedPage, ht]
    obtain ⟨brace, hbrace, -, -, hrun⟩ :=
      (titleOfHead_of_setTitle (by decide)).1 htemplates List.mem_cons_self (by rw [hrecord]; rfl)
    rw [braces_commentedPage, List.mem_singleton] at hbrace
    obtain ⟨u, hu, hchange⟩ := hrun []
    obtain rfl := Node.scannedTemplate.inj hu
    obtain ⟨-, -, -, hread⟩ := hchange _ _ _ hset hnew
    rw [hbrace] at hread
    refine ⟨t, changed, htemplates, hset, hrender, hread ⟨?_, ?_, ?_, ?_, ?_⟩⟩
    · exact hsite ▸ hmade
    · exact hsite ▸ namesTrimmed_braceSampleSite
    · have hkept : Uncommented (commentedBrace.head.take 11) " ".toList :=
        (Uncommented.nil.keep (by decide)).drop (by decide : ¬ _ <:+: " a ".toList ++ _)
      exact ⟨11, _, by rw [hrecord]; decide, hkept⟩
    · rw [hrecord]
      decide
    · rw [htext]
      decide
  · obtain ⟨link, changed, hlink, hrecord, hset, hnew, hsite, htext, hrender⟩ : ∃ link changed : ScannedLink,
        linkedPage.linksOf [linkedRecord] = .ok [.page link] ∧ link.record = linkedRecord ∧
        Attempt.result <$> link.setTitle (.text "Bar".toList) = .ok (some changed) ∧
        changed.title.same link.title = false ∧ changed.title.site = braceSampleSite ∧
        changed.title.render true true = "Bar".toList ∧ changed.render true = "[[Bar<!-- b -->|y]]".toList :=
      ⟨_, _, rfl, rfl, rfl, rfl, rfl, rfl, rfl⟩
    have hlinks : linkedPage.links = .ok [.page link] := by rw [links, linkRecords_linkedPage, hlink]
    obtain ⟨bracket, hbracket, -, -, hrun⟩ :=
      (titleOfHead_of_setTitle (by decide)).2 hlinks List.mem_cons_self (by rw [hrecord]; rfl)
    rw [scan_linkedPage.2, List.mem_singleton] at hbracket
    obtain ⟨u, hu, hchange⟩ := hrun []
    obtain rfl := Node.scannedLink.inj hu
    obtain ⟨-, -, -, hread⟩ := hchange _ _ _ hset hnew
    rw [hbracket] at hread
    refine ⟨link, changed, hlinks, hset, hrender, hread ⟨?_, ?_, ?_, ?_, ?_⟩⟩
    · exact hsite ▸ hmade
    · exact hsite ▸ namesTrimmed_braceSampleSite
    · exact ⟨0, [], by rw [hrecord]; decide, .nil⟩
    · rw [hrecord]
      decide
    · rw [htext]
      decide

/-- A page with a template that has its title in a comment as well. -/
def echoedPage : Page where
  text := "\x7b\x7b<!-- Foo -->Foo\x7d\x7d".toList
  site := some braceSampleSite
  skipTags := []

/-- What the scan finds in `echoedPage`. -/
def echoedBrace : Brace where
  span := ⟨0, 19⟩
  written := "\x7b\x7b<!-- Foo -->Foo\x7d\x7d".toList
  head := "<!-- Foo -->Foo".toList
  arguments := []

theorem braces_echoedPage : echoedPage.scan.braces = [echoedBrace] := by decide +kernel

def echoedRecord : BraceRecord where
  title := "Foo".toList
  rawTitle := "<!-- \x01 -->Foo".toList
  written := echoedBrace.written
  span := echoedBrace.span

theorem titleOfHead_echoedBrace : titleOfHead echoedBrace.head = "Foo".toList := by
  have hbehind : Uncommented "Foo".toList "Foo".toList := .of_notMem (by decide)
  have hkept : Uncommented echoedBrace.head "Foo".toList := hbehind.drop (by decide : ¬ _ <:+: " Foo ".toList ++ _)
  rw [titleOfHead, hkept.stripComments_eq_kept]
  rfl

/-- The new title takes the place of the old one in the comment, so that the head keeps the old title. -/
theorem Page.titleOfHead_of_setTitle_echoed :
    titleMarker ∉ echoedPage.text ∧ echoedBrace ∈ echoedPage.scan.braces ∧
    ∃ t changed, echoedPage.templates = .ok [.template t] ∧ t.record.hasMarker = true ∧
      Attempt.result <$> t.setTitle (.text "Bar".toList) = .ok (some changed) ∧
      changed.title.same t.title = false ∧ changed.titleText = "Bar".toList ∧
      changed.render true = .ok (writeBraces "<!-- Bar -->Foo".toList []) ∧
      titleOfHead "<!-- Bar -->Foo".toList = "Foo".toList := by
  have hrecords : echoedPage.braceRecords = [echoedRecord] :=
    braceRecords_of_braces rfl braces_echoedPage titleOfHead_echoedBrace
  obtain ⟨t, changed, ht, hmarker, hset, hnew, htext, hrender⟩ : ∃ t changed : ScannedTemplate,
      echoedPage.templatesOf [echoedRecord] = .ok [.template t] ∧ t.record.hasMarker = true ∧
      Attempt.result <$> t.setTitle (.text "Bar".toList) = .ok (some changed) ∧
      changed.title.same t.title = false ∧ changed.titleText = "Bar".toList ∧
      changed.render true = .ok (writeBraces "<!-- Bar -->Foo".toList []) :=
    ⟨_, _, rfl, rfl, rfl, rfl, rfl, rfl⟩
  refine ⟨by decide, ?_, t, changed, ?_, hmarker, hset, hnew, htext, hrender, ?_⟩
  · rw [braces_echoedPage]
    exact List.mem_cons_self
  · rw [templates, hrecords, ht]
  · have hhead : echoedBrace.head =
        [] ++ commentOpening ++ " ".toList ++ "Foo".toList ++ " ".toList ++ commentClosing ++ "Foo".toList := rfl
    have hbody : ¬ commentClosing <:+: " ".toList ++ "Bar".toList ++ " ".toList ++ ['-', '-'] := by decide
    have hkept := titleOfHead_replaceFirst_of_comment .nil hhead (by decide) (by decide) hbody
    rwa [titleOfHead_echoedBrace] at hkept

end PageMarkup
