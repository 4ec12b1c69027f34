import PageMarkup.Proofs.Function.Subsequence
import PageMarkup.Proofs.Hook.Reading
import PageMarkup.Proofs.Outcome
import PageMarkup.Proofs.Text.Search
import PageMarkup.Proofs.Text.Trim

/-!
# Raw titles

A raw title is a head as it was found, with at most one piece of it exchanged for the marker. As long as the
head holds no marker of its own, putting the title back gives the head again: as a whole
(`Origin.titlePart_eq_head`), and for a call cut behind its hook (`HookSplit.fill_append_firstParam`), where the hook
is either a part of the title or has to be found character by character. It is always found, as the title is what is
left of the head when some characters are dropped (`HookSplit.exists_ofOrigin_eq_ok`). A call that was found consists
of what its head was cut into (`ScannedCall.exists_of_ofRecord_eq_ok`).
-/
namespace PageMarkup

/-- Either nothing of the head was exchanged, or one occurrence of the title was. -/
theorem rawTitleOf_cases (head title : Text) :
    rawTitleOf head title = head ∨ ∃ before behind,
      head = before ++ title ++ behind ∧ rawTitleOf head title = before ++ titleMarker :: behind := by
  unfold rawTitleOf
  split
  · exact Or.inl rfl
  · simpa using Text.replaceFirst_cases title [titleMarker] head

/-- The title in place of its marker gives the head. -/
theorem fillRawTitle_rawTitleOf {head : Text} (title : Text) (hmark : titleMarker ∉ head) :
    fillRawTitle (rawTitleOf head title) title = head := by
  unfold fillRawTitle
  obtain hraw | ⟨before, behind, hhead, hraw⟩ := rawTitleOf_cases head title
  · rw [hraw, Text.replaceFirst_singleton_of_notMem title hmark]
  · have hbefore : titleMarker ∉ before := by
      intro h
      exact hmark (by simp [hhead, h])
    rw [hraw, Text.replaceFirst_singleton_append title behind hbefore, ← hhead]

/-- A raw title without a marker is the head. -/
theorem rawTitleOf_eq_of_notMem {head title : Text} (h : titleMarker ∉ rawTitleOf head title) :
    rawTitleOf head title = head := by
  obtain hraw | ⟨before, behind, _, hraw⟩ := rawTitleOf_cases head title
  · exact hraw
  · exact absurd (by simp [hraw]) h

/-- A raw title has a marker if the title is not empty and occurs in the head. -/
theorem exists_find?_of_mem {head title : Text} (hmark : titleMarker ∉ head) (h : titleMarker ∈ rawTitleOf head title) :
    title ≠ [] ∧ ∃ i, Text.find? title head = some i := by
  unfold rawTitleOf Text.replaceFirst at h
  split at h
  · exact absurd h hmark
  · rename_i hne
    cases hfind : Text.find? title head with
    | none =>
      rw [hfind] at h
      exact absurd h hmark
    | some i => exact ⟨by simpa using hne, i, rfl⟩

/-- Another title in place of the marker stands where the title first occurs in the head. -/
theorem fillRawTitle_rawTitleOf_of_mem {head title : Text} (written : Text) (hmark : titleMarker ∉ head)
    (h : titleMarker ∈ rawTitleOf head title) :
    fillRawTitle (rawTitleOf head title) written = Text.replaceFirst title written head := by
  obtain ⟨hne, i, hfind⟩ := exists_find?_of_mem hmark h
  have hbefore : titleMarker ∉ head.take i := fun hmem => hmark (List.mem_of_mem_take hmem)
  have hraw : rawTitleOf head title = head.take i ++ titleMarker :: head.drop (i + title.length) := by
    simp [rawTitleOf, hne, Text.replaceFirst_of_find? _ hfind]
  rw [hraw, fillRawTitle, Text.replaceFirst_singleton_append written _ hbefore, Text.replaceFirst_of_find? _ hfind]

/-- The title part of a node that still has the title that was read is the head that it was read from. -/
theorem Origin.titlePart_eq_head {o : Origin} {head : Text} (current : Text)
    (hraw : o.rawTitle = rawTitleOf head o.title) (hmark : titleMarker ∉ head) :
    o.titlePart current true = head := by
  unfold Origin.titlePart Origin.hasMarker
  split
  · simpa [hraw] using fillRawTitle_rawTitleOf o.title hmark
  · rename_i hnone
    simpa [hraw] using rawTitleOf_eq_of_notMem (by simpa [hraw] using hnone)

/-! ## Hooks -/

namespace HookSplit

/-- A head without a marker is cut where the characters of the hook have been found one after the other. -/
theorem exists_stop_of_notMem {o : Origin} {hook : Text} {split : HookSplit} (hmark : titleMarker ∉ o.rawTitle)
    (h : ofOrigin o hook = .ok split) :
    ∃ stop, subsequenceEnd? hook o.rawTitle = some stop ∧ split.frame.fill hook hook = o.rawTitle.take stop ∧
      split.firstParam = o.rawTitle.drop stop := by
  rw [ofOrigin, Text.cutAtFirst_of_notMem hmark] at h
  dsimp only at h
  split at h
  · simp at h
  · rename_i stop hstop
    have hlen := subsequenceEnd?_le hstop
    obtain rfl := Except.ok.inj h
    refine ⟨stop, hstop, ?_, rfl⟩
    dsimp only
    split
    · rename_i hends
      obtain ⟨before, hbefore⟩ := (Text.endsWith_iff _ _).mp hends
      have hstop' : stop - hook.length = before.length := by
        have := congrArg List.length hbefore
        simp only [List.length_append, List.length_take] at this
        omega
      rw [HookFrame.fill, hstop', ← hbefore, List.take_left]
    · rw [HookFrame.fill, if_pos rfl]

/-- The hook and the first parameter that a head without a marker is cut into are together the head. -/
theorem fill_append_of_notMem {o : Origin} {hook : Text} {split : HookSplit} (hmark : titleMarker ∉ o.rawTitle)
    (h : ofOrigin o hook = .ok split) : split.frame.fill hook hook ++ split.firstParam = o.rawTitle := by
  obtain ⟨stop, -, hfill, hfirst⟩ := exists_stop_of_notMem hmark h
  rw [hfill, hfirst, List.take_append_drop]

/-- The hook and the first parameter that a marked head is cut into are together the head with its title. -/
theorem fill_append_of_marked {o : Origin} {hook before behind : Text} {split : HookSplit}
    (hraw : o.rawTitle = before ++ titleMarker :: behind) (hmark : titleMarker ∉ before)
    (hhook : hook <+: Text.trim o.title) (h : ofOrigin o hook = .ok split) :
    split.frame.fill hook hook ++ split.firstParam = before ++ Text.trim o.title ++ behind := by
  rw [ofOrigin, hraw, Text.cutAtFirst_append_cons behind hmark] at h
  obtain rfl := Except.ok.inj h
  have htitle := List.prefix_iff_eq_append.mp hhook
  simp only [HookFrame.fill, List.append_assoc]
  rw [← List.append_assoc hook, htitle]

/-- A head that is cut behind its hook loses nothing, whether the title stands in it in one piece or not. -/
theorem fill_append_firstParam {o : Origin} {head hook : Text} {split : HookSplit}
    (hraw : o.rawTitle = rawTitleOf head o.title) (htrim : Text.trim o.title = o.title) (hmark : titleMarker ∉ head)
    (hhook : hook <+: Text.trim o.title) (h : ofOrigin o hook = .ok split) :
    split.frame.fill hook hook ++ split.firstParam = head := by
  obtain hsame | ⟨before, behind, hhead, hmarked⟩ := rawTitleOf_cases head o.title
  · have hwhole : o.rawTitle = head := hraw.trans hsame
    rw [← hwhole] at hmark
    rw [fill_append_of_notMem hmark h, hwhole]
  · have hbefore : titleMarker ∉ before := by
      intro hmem
      exact hmark (by simp [hhead, hmem])
    rw [fill_append_of_marked (hraw.trans hmarked) hbefore hhook h, htrim, ← hhead]

end HookSplit

/-- A call is made of a record only if the site recognizes its hook, its head can be cut behind the hook and its seeds
can be read as parameters. What is left of the head is the first of its parameters. -/
theorem ScannedCall.exists_of_ofRecord_eq_ok {site : Option Site} {record : BraceRecord} {call : ScannedCall}
    (h : ofRecord site record = .ok call) :
    ∃ (known : Site) (verified : VerifiedHook) (split : HookSplit) (values : List Value) (params : Slots),
      site = some known ∧ known.hookTable.verify record.title = some verified ∧
      HookSplit.ofOrigin record.toOrigin verified.written = .ok split ∧
      record.seeds.mapM SeedValue.positional = .ok values ∧
      Slots.ofValue (.list (.text split.firstParam :: values)) = .ok params ∧
      call = {
        site := known, hook := verified.written, canonical := verified.canonical, params
        record, frame := split.frame, scannedHook := verified.written } := by
  unfold ofRecord at h
  cases site with
  | none => simp at h
  | some known =>
    dsimp only at h
    split at h
    · rename_i verified hverified
      obtain ⟨split, hsplit, h⟩ := Outcome.bind_eq_ok.mp h
      obtain ⟨values, hvalues, h⟩ := Outcome.bind_eq_ok.mp h
      obtain ⟨params, hparams, h⟩ := Outcome.bind_eq_ok.mp h
      obtain rfl := Except.ok.inj h
      exact ⟨known, verified, split, values, params, rfl, hverified, hsplit, hvalues, hparams, rfl⟩
    · simp at h

end PageMarkup
