import PageMarkup.Proofs.Page.BraceRoundTrip
import PageMarkup.Proofs.Scan.Stripping
import PageMarkup.Proofs.Text.Spacing

/-!
# Heads of function calls without their comments

A scanned call keeps its head as what was written up to the end of the hook and, behind that, the first parameter. The
end of the hook is found where the title stands in the head, or else character by character, without a look at comments.
As long as it is found outside of comments, what stands before it is the hook and nothing else once comments and blanks
are gone (`HookSplit.trimStart_kept`), so that the hook can be written in its place and the head means the same
(`Page.titleOfHead_hook_of_call`). Inside of a comment the rest of the comment becomes a part of the first parameter
(`Page.titleOfHead_hook_of_splitPage`).
-/
namespace PageMarkup

namespace HookSplit

section

variable {head title kept run rest : Text} {c : Char} (hrun : ∀ d ∈ run, isHookChar d = true)
  (hcolon : isHookColon c = true) (hopen : '<' ∉ run ++ [c]) (hclose : '>' ∉ run ++ [c])

include hrun hcolon in
/-- A hook has no blanks. -/
theorem trimStart_hook : Text.trimStart (run ++ [c]) = run ++ [c] := by
  cases run with
  | nil => exact Text.trimStart_cons_of_not_isBlank _ (not_isBlank_of_isHookColon hcolon)
  | cons d run =>
    exact Text.trimStart_cons_of_not_isBlank _ (not_isBlank_of_isHookChar (hrun d List.mem_cons_self))

include hrun hcolon hopen hclose

/-- Where the title stands in the head in one piece, and outside of comments, only blanks and comments stand before it. -/
theorem trimStart_kept_of_marked {before behind : Text} (hhead : titleOfHead (before ++ title ++ behind) = title)
    (htitle : title = run ++ [c] ++ rest) (hplace : Uncommented (before ++ (run ++ [c])) kept) :
    Text.trimStart kept = run ++ [c] := by
  obtain ⟨front, hfront, rfl⟩ := hplace.exists_of_append hopen hclose
  -- The rest of the title up to a tag of its own, which a comment may follow.
  obtain ⟨plain, tagged, rfl, hplain, htagged⟩ : ∃ plain tagged, rest = plain ++ tagged ∧ '<' ∉ plain ∧
      (tagged = [] ∨ ∃ others, tagged = '<' :: others) := by
    by_cases hmem : '<' ∈ rest
    · obtain ⟨plain, others, hsplit, hplain⟩ := List.eq_append_cons_of_mem hmem
      exact ⟨plain, '<' :: others, hsplit, hplain, Or.inr ⟨others, rfl⟩⟩
    · exact ⟨rest, [], (List.append_nil rest).symm, hmem, Or.inl rfl⟩
  have hstrip : stripComments (before ++ title ++ behind) =
      front ++ (run ++ [c] ++ plain) ++ stripComments (tagged ++ behind) := by
    have hall : before ++ title ++ behind = before ++ (run ++ [c]) ++ (plain ++ (tagged ++ behind)) := by
      simp [htitle]
    rw [hall, hplace.stripComments_append, (Uncommented.of_notMem hplain).stripComments_append]
    simp
  have htrim : Text.trim (front ++ (run ++ [c] ++ plain) ++ stripComments (tagged ++ behind)) =
      run ++ [c] ++ plain ++ tagged := by
    rw [← hstrip, List.append_assoc (run ++ [c]), ← htitle]
    exact hhead
  have hblank : ∀ d ∈ front, isBlank d = true := by
    refine Text.forall_isBlank_of_trim_append (by simp) htrim ?_
    obtain hnil | ⟨others, hothers⟩ := htagged
    · exact Or.inl hnil
    · refine Or.inr ⟨'<', others, hothers, ?_⟩
      simp only [List.mem_append, not_or]
      simp only [List.mem_append, not_or] at hopen
      exact ⟨hfront.notMem_kept, hopen, hplain⟩
  rw [Text.trimStart_append_of_forall _ hblank, trimStart_hook hrun hcolon]

/-- Where the characters of the hook are found one after the other, and the last one outside of comments, they are all
that stands before its end outside of comments: a colon before would have ended the hook, and one more hook would have
been found earlier. -/
theorem trimStart_kept_of_found {stop : Nat} (hfound : subsequenceEnd? (run ++ [c]) head = some stop)
    (htitle : titleOfHead head = run ++ [c] ++ rest) (hplace : Uncommented (head.take stop) kept) :
    Text.trimStart kept = run ++ [c] := by
  obtain ⟨early, htake, hnone⟩ := exists_of_subsequenceEnd?_append hfound
  have hlast : '<' ∉ [c] ∧ '>' ∉ [c] := by
    simp only [List.mem_append, not_or] at hopen hclose
    exact ⟨hopen.2, hclose.2⟩
  have hsplit : Uncommented (early ++ [c]) kept := htake ▸ hplace
  obtain ⟨front, hfront, rfl⟩ := hsplit.exists_of_append hlast.1 hlast.2
  have hblank := not_isBlank_of_isHookColon hcolon
  have hstart : Text.trimStart (front ++ [c]) = Text.trimStart front ++ [c] := Text.trimStart_append_cons front [] hblank
  have hbegins : run ++ [c] <+: Text.trimStart front ++ c :: stripComments (head.drop stop) := by
    have hstrip : stripComments head = front ++ c :: stripComments (head.drop stop) := by
      rw [← List.take_append_drop stop head, hplace.stripComments_append, List.take_append_drop]
      simp
    rw [← Text.trimStart_append_cons _ _ hblank, ← hstrip]
    exact List.IsPrefix.trans ⟨rest, htitle.symm⟩ (Text.trimEnd_prefixOf _)
  rw [hstart]
  obtain hlt | heq | hgt := Nat.lt_trichotomy run.length (Text.trimStart front).length
  · have hshort : run ++ [c] <+: Text.trimStart front := by
      refine List.prefix_of_prefix_length_le hbegins (List.prefix_append _ _) ?_
      simp only [List.length_append, List.length_singleton]
      omega
    exact absurd (hshort.sublist.trans ((Text.trimStart_suffix front).sublist.trans hfront.sublist)) hnone
  · have hrunlead := (List.prefix_append run [c]).trans hbegins
    rw [(List.prefix_of_prefix_length_le hrunlead (List.prefix_append _ _) heq.le).eq_of_length heq]
  · have hrunlead := (List.prefix_append run [c]).trans hbegins
    have hwithin : Text.trimStart front ++ [c] <+: run := by
      refine List.prefix_of_prefix_length_le ⟨stripComments (head.drop stop), by simp⟩ hrunlead ?_
      simp only [List.length_append, List.length_singleton]
      omega
    have hmem := hrun c (hwithin.subset (by simp))
    simp [isHookChar, hcolon] at hmem

end

/-- Outside of comments, nothing but the hook stands before the end of the hook at which a head is cut. -/
theorem trimStart_kept {o : Origin} {head hook kept : Text} {split : HookSplit} {table : HookTable}
    {verified : VerifiedHook} (hraw : o.rawTitle = rawTitleOf head o.title) (htitle : o.title = titleOfHead head)
    (hmark : titleMarker ∉ head) (hverified : table.verify o.title = some verified) (hhook : verified.written = hook)
    (h : ofOrigin o hook = .ok split) (hopen : '<' ∉ hook) (hclose : '>' ∉ hook)
    (hplace : Uncommented (split.frame.fill hook hook) kept) : Text.trimStart kept = hook := by
  have htrim : Text.trim o.title = o.title := by rw [htitle]; exact Text.trim_trim _
  obtain ⟨rest, hrest⟩ := HookTable.verify_prefixOf hverified
  obtain ⟨run, c, hwritten, hrun, hcolon⟩ := HookTable.exists_of_verify hverified
  obtain rfl : run ++ [c] = hook := hwritten.symm.trans hhook
  rw [hwritten, htrim] at hrest
  obtain hsame | ⟨before, behind, hhead, hmarked⟩ := rawTitleOf_cases head o.title
  · have hwhole : o.rawTitle = head := hraw.trans hsame
    obtain ⟨stop, hstop, hfill, -⟩ := exists_stop_of_notMem (hwhole ▸ hmark) h
    rw [hwhole] at hstop hfill
    rw [hfill] at hplace
    exact trimStart_kept_of_found hrun hcolon hopen hclose hstop (htitle.symm.trans hrest.symm) hplace
  · have hbefore : titleMarker ∉ before := fun hmem => hmark (by simp [hhead, hmem])
    rw [ofOrigin, hraw.trans hmarked, Text.cutAtFirst_append_cons behind hbefore] at h
    obtain rfl := Except.ok.inj h
    rw [hhead] at htitle
    exact trimStart_kept_of_marked hrun hcolon hopen hclose htitle.symm hrest.symm hplace

end HookSplit

/-! ## Calls -/

section

variable {site : Option Site} {around skipped : List Scan.Span} {brace : Brace} {call : ScannedCall}

/-- A call whose hook ends outside of comments in the head can be written with the hook in place of what was written
up to its end: without comments and outer blanks the head is the same. -/
theorem ScannedCall.titleOfHead_hook (hmark : titleMarker ∉ brace.head)
    (h : ofRecord site (BraceRecord.ofBrace around skipped brace) = .ok call) (hopen : '<' ∉ call.hook)
    (hclose : '>' ∉ call.hook) {kept : Text} (hplace : Uncommented call.rawHook kept) :
    ∃ first, call.params.strings = first :: brace.arguments.map (·.written.drop 1) ∧
      brace.head = call.rawHook ++ first ∧ titleOfHead (call.hook ++ first) = titleOfHead brace.head := by
  obtain ⟨table, verified, split, hverified, hsplit, hhook, hscanned, hframe, hparams⟩ := params_ofRecord rfl h
  have hraw := BraceRecord.rawTitle_ofBrace around skipped brace
  have htitle : (BraceRecord.ofBrace around skipped brace).title = titleOfHead brace.head := rfl
  have hrawHook : call.rawHook = split.frame.fill verified.written verified.written := by
    rw [rawHook, hframe, hscanned]
  have hhead : call.rawHook ++ split.firstParam = brace.head := by
    rw [hrawHook]
    exact HookSplit.fill_append_firstParam hraw (BraceRecord.trim_title_ofBrace around skipped brace) hmark
      (HookTable.verify_prefixOf hverified) hsplit
  have hkept : Text.trimStart kept = call.hook := by
    rw [hhook]
    rw [hhook] at hopen hclose
    rw [hrawHook] at hplace
    exact HookSplit.trimStart_kept hraw htitle hmark hverified rfl hsplit hopen hclose hplace
  have hne : Text.trimStart kept ≠ [] := by
    obtain ⟨run, c, hwritten, -⟩ := HookTable.exists_of_verify hverified
    rw [hkept, hhook, hwritten]
    simp
  refine ⟨split.firstParam, by simp [hparams, Slots.strings], hhead.symm, ?_⟩
  calc titleOfHead (call.hook ++ split.firstParam)
      = Text.trim (call.hook ++ stripComments split.firstParam) := by
        rw [titleOfHead, (Uncommented.of_notMem hopen).stripComments_append]
    _ = Text.trim (kept ++ stripComments split.firstParam) := by
        rw [Text.trim, Text.trim, Text.trimStart_append_of_ne_nil _ hne, hkept, Text.trimStart_append_of_ne_nil]
        · rw [← hkept, Text.trimStart_trimStart]
        · rwa [← hkept, Text.trimStart_trimStart]
    _ = titleOfHead brace.head := by
        rw [← hhead, titleOfHead, hplace.stripComments_append]

end

/-- With its hook as it is, and not as it was written, a call is the hook and the parameters between double braces. -/
theorem ScannedCall.render_eq {call : ScannedCall} {first : Text} {args : List Argument}
    (hpiped : ∀ arg ∈ args, ∃ rest, arg.written = '|' :: rest)
    (h : call.params.strings = first :: args.map (·.written.drop 1)) :
    call.render = writeBraces (call.hook ++ first) (args.flatMap (·.written)) := by
  simp only [render, FunctionCall.styledHook, CallStyle.write, CallStyle.paramTexts_default, h, Text.joinWith_cons,
    flatMap_pipe_drop hpiped, writeBraces]
  simp

/-- A function call on a page without markers is written without its raw hook as the same call if its hook ends outside
of comments: the hook and the first parameter are the head, once comments and outer blanks are gone. -/
theorem Page.titleOfHead_hook_of_call {page : Page} {hierarchies : Value} {titleFits : Text → Bool}
    {fits : BraceNode → Bool} {nodes : List BraceNode} {call : ScannedCall} (hmark : titleMarker ∉ page.text)
    (h : page.templates hierarchies titleFits fits = .ok nodes) (hcall : .call call ∈ nodes)
    (hopen : '<' ∉ call.hook) (hclose : '>' ∉ call.hook) {kept : Text} (hplace : Uncommented call.rawHook kept) :
    ∃ brace ∈ page.scan.braces,
      call.record = BraceRecord.ofBrace (page.scan.braces.map (·.span)) (page.skipSpans page.scan) brace ∧
      ∃ first, call.params.strings = first :: brace.arguments.map (·.written.drop 1) ∧
        brace.head = call.rawHook ++ first ∧
        call.render = writeBraces (call.hook ++ first) (brace.arguments.flatMap (·.written)) ∧
        titleOfHead (call.hook ++ first) = titleOfHead brace.head := by
  obtain ⟨site, brace, hbrace, hof⟩ := exists_brace_of_mem_templatesOf h hcall
  have hhead : titleMarker ∉ brace.head := fun hmem => hmark (Scan.head_subset hbrace hmem)
  obtain ⟨-, own, hown, hnode⟩ | ⟨-, ⟨title, chains, t, -, -, hnode⟩ | ⟨fault, raw, -, -, -, hnode⟩⟩ :=
    BraceNode.ofRecord_eq_ok hof
  · obtain rfl := BraceNode.call.inj hnode
    obtain ⟨first, hstrings, hsplit, htitle⟩ := ScannedCall.titleOfHead_hook hhead hown hopen hclose hplace
    exact ⟨brace, hbrace, ScannedCall.record_ofRecord hown, first, hstrings, hsplit,
      ScannedCall.render_eq (Scan.piped_of_mem_braces hbrace) hstrings, htitle⟩
  · simp at hnode
  · simp at hnode

/-- A page with a call whose hook a comment interrupts. -/
def interruptedPage : Page where
  text := "\x7b\x7b #i<!-- a -->f: x|y\x7d\x7d".toList
  site := some braceSampleSite
  skipTags := []

/-- What the scan finds in `interruptedPage`. -/
def interruptedBrace : Brace where
  span := ⟨0, 23⟩
  written := "\x7b\x7b #i<!-- a -->f: x|y\x7d\x7d".toList
  head := " #i<!-- a -->f: x".toList
  arguments := [⟨"|y".toList, none, "y".toList⟩]

theorem braces_interruptedPage : interruptedPage.scan.braces = [interruptedBrace] := by decide +kernel

def interruptedRecord : BraceRecord where
  title := "#if: x".toList
  rawTitle := interruptedBrace.head
  written := interruptedBrace.written
  span := interruptedBrace.span
  seeds := [{ value := .text "y".toList, source := .text "|y".toList }]

/-- The comment lies within the hook, and what is left of the hook without it is `#if:` again. -/
theorem uncommented_interruptedHook : Uncommented " #i<!-- a -->f:".toList " #if:".toList := by
  have hbehind : Uncommented "f:".toList "f:".toList := .of_notMem (by decide)
  exact .keep (by decide) (.keep (by decide) (.keep (by decide) (hbehind.drop (by decide : ¬ _ <:+: " a ".toList ++ _))))

theorem braceRecords_interruptedPage : interruptedPage.braceRecords = [interruptedRecord] := by
  have hrest : stripComments " x".toList = " x".toList := (Uncommented.of_notMem (by decide)).stripComments_eq_kept
  have hkept := uncommented_interruptedHook.stripComments_append " x".toList
  rw [hrest] at hkept
  have htitle : titleOfHead interruptedBrace.head = "#if: x".toList := congrArg Text.trim hkept
  exact Page.braceRecords_of_braces rfl braces_interruptedPage htitle

/-- The hook is found around the comment, which is gone when it is written in one piece. -/
theorem Page.titleOfHead_hook_of_interruptedPage :
    ∃ call first, interruptedPage.templates = .ok [.call call] ∧ call.hook = "#if:".toList ∧
      call.rawHook = " #i<!-- a -->f:".toList ∧
      call.render = writeBraces (call.hook ++ first) "|y".toList ∧
      titleOfHead (call.hook ++ first) = titleOfHead interruptedBrace.head := by
  obtain ⟨call, hcall, hhook, hraw⟩ : ∃ call, interruptedPage.templatesOf [interruptedRecord] = .ok [.call call] ∧
      call.hook = "#if:".toList ∧ call.rawHook = " #i<!-- a -->f:".toList := ⟨_, rfl, rfl, rfl⟩
  have htemplates : interruptedPage.templates = .ok [.call call] := by
    rw [templates, braceRecords_interruptedPage, hcall]
  have hmark : titleMarker ∉ interruptedPage.text := by decide
  have hplace : Uncommented call.rawHook " #if:".toList := by
    rw [hraw]
    exact uncommented_interruptedHook
  obtain ⟨brace, hbrace, -, first, -, -, hrender, htitle⟩ :=
    titleOfHead_hook_of_call hmark htemplates List.mem_cons_self (by rw [hhook]; decide) (by rw [hhook]; decide) hplace
  rw [braces_interruptedPage, List.mem_singleton] at hbrace
  subst hbrace
  exact ⟨call, first, htemplates, hhook, hraw, hrender, htitle⟩

/-- A page with a call in whose hook a comment stands that has the characters of its rest. -/
def splitPage : Page where
  text := "\x7b\x7b#i<!--f:-->f:x\x7d\x7d".toList
  site := some braceSampleSite
  skipTags := []

/-- What the scan finds in `splitPage`. -/
def splitBrace : Brace where
  span := ⟨0, 18⟩
  written := "\x7b\x7b#i<!--f:-->f:x\x7d\x7d".toList
  head := "#i<!--f:-->f:x".toList
  arguments := []

theorem braces_splitPage : splitPage.scan.braces = [splitBrace] := by decide +kernel

def splitRecord : BraceRecord where
  title := "#if:x".toList
  rawTitle := splitBrace.head
  written := splitBrace.written
  span := splitBrace.span

theorem titleOfHead_splitBrace : titleOfHead splitBrace.head = "#if:x".toList := by
  have hbehind : Uncommented "f:x".toList "f:x".toList := .of_notMem (by decide)
  have hkept : Uncommented splitBrace.head "#if:x".toList :=
    .keep (by decide) (.keep (by decide) (hbehind.drop (by decide : ¬ _ <:+: "f:".toList ++ _)))
  rw [titleOfHead, hkept.stripComments_eq_kept]
  rfl

/-- The end of the hook is found inside of the comment, and the rest of the comment becomes a part of the first
parameter. -/
theorem Page.titleOfHead_hook_of_splitPage :
    ∃ call, splitPage.templates = .ok [.call call] ∧ splitBrace ∈ splitPage.scan.braces ∧
      call.hook = "#if:".toList ∧ call.params.strings = ["-->f:x".toList] ∧
      splitBrace.head = call.rawHook ++ "-->f:x".toList ∧
      call.render = "\x7b\x7b#if:-->f:x\x7d\x7d".toList ∧
      titleOfHead splitBrace.head = "#if:x".toList ∧
      titleOfHead (call.hook ++ "-->f:x".toList) = "#if:-->f:x".toList := by
  have hrecords : splitPage.braceRecords = [splitRecord] :=
    braceRecords_of_braces rfl braces_splitPage titleOfHead_splitBrace
  obtain ⟨call, hcall, hhook, hparams, hraw, hrender⟩ : ∃ call, splitPage.templatesOf [splitRecord] = .ok [.call call] ∧
      call.hook = "#if:".toList ∧ call.params.strings = ["-->f:x".toList] ∧
      splitBrace.head = call.rawHook ++ "-->f:x".toList ∧ call.render = "\x7b\x7b#if:-->f:x\x7d\x7d".toList :=
    ⟨_, rfl, rfl, rfl, rfl, rfl⟩
  refine ⟨call, ?_, ?_, hhook, hparams, hraw, hrender, titleOfHead_splitBrace, ?_⟩
  · rw [templates, hrecords, hcall]
  · rw [braces_splitPage]
    exact List.mem_cons_self
  · rw [hhook]
    rfl

end PageMarkup
