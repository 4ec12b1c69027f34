import PageMarkup.Proofs.Node.Detour
import PageMarkup.Proofs.Node.Lineage

/-!
# Titles that calls remember

A template that is made a call leaves its title in the record, but not if the record has a title in that place already,
from an earlier time at which the construct was made a call. So the call that comes of a template remembers the first
title of the whole chain of conversions, not the one that the template had. What it is made without a title is the
template again only if both are read as the same title (`Page.title_restored_iff`).
-/
namespace PageMarkup

/-! ## Records -/

/-- The first of the titles that is not empty. -/
def firstTitle? (left : List Text) : Option Text := left.find? fun s => !s.isEmpty

theorem firstTitle?_append (left : List Text) (s : Text) :
    firstTitle? (left ++ [s]) = (firstTitle? left).or (if s.isEmpty then none else some s) := by
  cases s <;> simp [firstTitle?, List.find?_append]

theorem ne_nil_of_firstTitle? {left : List Text} {s : Text} (h : firstTitle? left = some s) : s ≠ [] := by
  simpa using List.find?_some h

namespace BraceRecord

variable {r : BraceRecord} {left : List Text}

/-- The title that a template leaves when it is made a call. -/
def keptTitle (r : BraceRecord) : Plain := if r.templateTitle.truthy then r.templateTitle else .text r.title

/-- Whether the record remembers the first of the titles that is not empty. -/
def Remembers (r : BraceRecord) (left : List Text) : Prop :=
  match firstTitle? left with
  | some s => r.templateTitle = .text s
  | none => r.templateTitle.truthy = false

theorem keptTitle_of_remembers (h : r.Remembers left) : r.keptTitle = .text ((firstTitle? left).getD r.title) := by
  unfold Remembers at h
  split at h
  · rename_i s hs
    have hne : s ≠ [] := ne_nil_of_firstTitle? hs
    simp [keptTitle, h, Datum.truthy, hne, hs]
  · rename_i hnone
    simp [keptTitle, h, hnone]

/-- A title that is left behind is remembered if no other one was before. -/
theorem Remembers.called (h : r.Remembers left) (s : Text) :
    Remembers { r with title := s, templateTitle := r.keptTitle } (left ++ [r.title]) := by
  have hkept : r.keptTitle = _ := keptTitle_of_remembers h
  unfold Remembers
  rw [firstTitle?_append]
  cases hfirst : firstTitle? left with
  | some first => simpa [hfirst] using hkept
  | none =>
    rw [hfirst] at hkept
    cases htitle : r.title <;> simp [hkept, htitle, Datum.truthy]

end BraceRecord

/-! ## Conversions -/

theorem ScannedCall.exists_of_toTemplate {call : ScannedCall} {title hierarchies : Value} {verbose : Bool}
    {t : ScannedTemplate} (h : Attempt.result <$> call.toTemplate title hierarchies verbose = .ok (some t)) :
    ∃ v, ScannedTemplate.ofTitle (some call.site) call.record v hierarchies = .ok t := by
  simp only [toTemplate] at h
  split at h
  · rw [Attempt.result_failed] at h
    cases verbose <;> simp [Attempt.wording, Fault.message] at h
  · simp [Functor.map, Except.map] at h
  · exact ⟨_, Attempt.eq_ok_of_result h⟩

namespace Node

variable {node m : Node} {c : Conversion} {r : BraceRecord}

/-- No conversion yields a template whose title was not accepted. -/
theorem ne_rawTemplate_of_converted (h : node.converted c = .ok (some m)) (t : RawTemplate) : m ≠ rawTemplate t := by
  rintro rfl
  cases node <;> cases c <;>
    first
    | exact absurd h not_converted
    | obtain ⟨_, -, hsame⟩ := exists_of_attempted h
      simp at hsame

/-- Nothing becomes a construct in double braces that was not one. -/
theorem braceRecord?_eq_none_of_converted (hnone : node.braceRecord? = none) (h : node.converted c = .ok (some m)) :
    m.braceRecord? = none := by
  cases node with
  | rawTemplate t | scannedTemplate t | scannedCall t => simp [braceRecord?] at hnone
  | _ =>
    cases c <;>
      first
      | exact absurd h not_converted
      | obtain ⟨_, -, rfl⟩ := exists_of_attempted h
        rfl

theorem titleLeft_of_pristine {fresh : Node} (h : node.pristine = .ok fresh) (c : Conversion) :
    node.titleLeft c = fresh.titleLeft c := by
  cases c with
  | toCall hook verbose => rw [titleLeft, titleLeft, (records_of_pristine h).1]
  | _ => rfl

/-- What a construct in double braces is converted to has the same record, with another title. If it is made a call, the
title that it had is kept. -/
theorem braceRecord?_of_converted (hr : node.braceRecord? = some r)
    (hraw : ∀ t, node = rawTemplate t → r.templateTitle.truthy = false) (h : node.converted c = .ok (some m)) :
    ∃ s, (m.braceRecord? = some { r with title := s } ∧ node.titleLeft c = []) ∨
      (m.braceRecord? = some { r with title := s, templateTitle := r.keptTitle } ∧ node.titleLeft c = [r.title]) := by
  cases node with
  | rawTemplate t =>
    obtain rfl := Option.some.inj hr
    cases c with
    | toTemplate title hierarchies verbose =>
      obtain ⟨u, hu, rfl⟩ := exists_of_attempted h
      rw [RawTemplate.toTemplate_eq] at hu
      obtain ⟨site, -, hof⟩ := Outcome.bind_eq_ok.mp (Attempt.eq_ok_of_result hu)
      obtain ⟨s, -, hread⟩ := ScannedTemplate.exists_of_ofTitle hof
      exact ⟨s, Or.inl ⟨congrArg some (ScannedTemplate.record_ofRecord hread), rfl⟩⟩
    | toCall hook verbose =>
      obtain ⟨call, hcall, rfl⟩ := exists_of_attempted h
      obtain ⟨site, -, hof⟩ := Outcome.bind_eq_ok.mp (Attempt.eq_ok_of_result hcall)
      obtain ⟨s, hread⟩ := ScannedCall.exists_of_ofHook hof
      have hkept : t.record.keptTitle = .text t.record.title := by simp [BraceRecord.keptTitle, hraw t rfl]
      rw [← hkept] at hread
      exact ⟨s, Or.inr ⟨congrArg some (ScannedCall.record_ofRecord hread), rfl⟩⟩
    | _ => exact absurd h not_converted
  | scannedTemplate t =>
    obtain rfl := Option.some.inj hr
    cases c with
    | toCall hook verbose =>
      obtain ⟨call, hcall, rfl⟩ := exists_of_attempted h
      obtain ⟨s, hread⟩ := ScannedCall.exists_of_ofHook (Attempt.eq_ok_of_result hcall)
      exact ⟨s, Or.inr ⟨congrArg some (ScannedCall.record_ofRecord hread), rfl⟩⟩
    | _ => exact absurd h not_converted
  | scannedCall call =>
    obtain rfl := Option.some.inj hr
    cases c with
    | toTemplate title hierarchies verbose =>
      obtain ⟨u, hu, rfl⟩ := exists_of_attempted h
      obtain ⟨v, hof⟩ := ScannedCall.exists_of_toTemplate hu
      obtain ⟨s, -, hread⟩ := ScannedTemplate.exists_of_ofTitle hof
      exact ⟨s, Or.inl ⟨congrArg some (ScannedTemplate.record_ofRecord hread), rfl⟩⟩
    | _ => exact absurd h not_converted
  | _ => simp [braceRecord?] at hr

section

variable {site : Site} {s : Text} {title hierarchies : Value} {verbose : Bool} {t : ScannedTemplate}
  {call : ScannedCall}

theorem converted_toCall_of_ofRecord (ht : ScannedTemplate.ofRecord (some site) r hierarchies = .ok t)
    (hcall : ScannedCall.ofRecord (some site) { r with title := s, templateTitle := r.keptTitle } = .ok call) :
    (scannedTemplate t).converted (.toCall (.text s) verbose) = .ok (some (scannedCall call)) := by
  obtain ⟨hsite, rfl, -⟩ := ScannedTemplate.ofRecord_eq_ok ht
  rw [hsite] at hcall
  have hmade : Attempt.result <$> t.toCall (.text s) verbose = .ok (some call) :=
    (Attempt.result_of _).trans (Attempt.outcome_eq_some_iff.mpr hcall)
  exact (result_attempted scannedCall _).trans (Attempt.map_result_eq_some.mpr ⟨call, hmade, rfl⟩)

theorem converted_toTemplate_of_ofRecord (hcall : ScannedCall.ofRecord (some site) r = .ok call)
    (htitle : title = .text s ∨ title = .null ∧ r.templateTitle = .text s)
    (ht : ScannedTemplate.ofRecord (some site) { r with title := s } hierarchies = .ok t) :
    (scannedCall call).converted (.toTemplate title hierarchies verbose) = .ok (some (scannedTemplate t)) := by
  obtain ⟨hsite, rfl⟩ := ScannedCall.ofRecord_eq_ok hcall
  rw [hsite, ← exists_outcome_scannedTemplate_iff] at ht
  obtain rfl | ⟨rfl, hkept⟩ := htitle
  · exact (result_attempted_of scannedTemplate _).trans ht
  · exact (converted_of_templateTitle hkept).trans ht

end

end Node

/-! ## Pages -/

/-- No construct that a scan finds was a call before. -/
theorem Page.Holds.templateTitle_eq_null {page : Page} {node : Node} {r : BraceRecord} (h : page.Holds node)
    (hr : node.braceRecord? = some r) : r.templateTitle = .null := by
  obtain ⟨hierarchies, titleFits, fits, nodes, htemplates, node, hnode, rfl⟩ | ⟨nodes, hlinks, node, hnode, rfl⟩ := h
  · obtain ⟨site, brace, hbrace, hof⟩ := exists_brace_of_mem_templatesOf htemplates hnode
    obtain ⟨-, hrecord, -⟩ := BraceNode.exists_source hof
    obtain rfl := Option.some.inj (hrecord.symm.trans hr)
    rfl
  · obtain ⟨record, hof, -⟩ := exists_bracket_of_mem_links hlinks hnode
    obtain ⟨-, hnone, -⟩ := LinkNode.exists_source hof
    simp [hnone] at hr

variable {page : Page} {left : List Text} {node : Node}

theorem Page.Yields.eq_nil_of_rawTemplate {t : RawTemplate} (h : page.Yields left (.rawTemplate t)) : left = [] := by
  cases h with
  | held h => rfl
  | converted h hm => exact absurd rfl (Node.ne_rawTemplate_of_converted hm t)

/-- A construct that comes of one that a page holds remembers the first title under which it was made a call. -/
theorem Page.Yields.remembers (h : page.Yields left node) {r : BraceRecord} (hr : node.braceRecord? = some r) :
    r.Remembers left := by
  induction h generalizing r with
  | held h =>
    have hnull : r.templateTitle.truthy = false := by rw [h.templateTitle_eq_null hr]; rfl
    exact hnull
  | @converted left node m edits c h hm ih =>
    obtain ⟨source, hbuild⟩ := h.exists_source
    have hpristine := Node.pristine_run_of_build hbuild edits
    obtain ⟨hbrace, -⟩ := Node.records_of_pristine hpristine
    rw [← Node.titleLeft_of_pristine hpristine]
    cases hold : (node.run edits).braceRecord? with
    | none => simp [Node.braceRecord?_eq_none_of_converted hold hm] at hr
    | some own =>
      have hown : own.Remembers left := ih (hbrace.symm.trans hold)
      -- A template whose title was not accepted leaves its own title behind, whatever it remembers. It comes of no
      -- conversion, so it remembers none.
      have hraw : ∀ t, node.run edits = .rawTemplate t → own.templateTitle.truthy = false := by
        intro t ht
        rw [ht] at hpristine
        obtain ⟨u, -, hu⟩ := Outcome.map_eq_ok.mp hpristine
        subst hu
        obtain rfl := h.eq_nil_of_rawTemplate
        exact hown
      obtain ⟨s, ⟨hrecord, hleft⟩ | ⟨hrecord, hleft⟩⟩ := Node.braceRecord?_of_converted hold hraw hm
      · obtain rfl := Option.some.inj (hrecord.symm.trans hr)
        rw [hleft, List.append_nil]
        exact hown
      · obtain rfl := Option.some.inj (hrecord.symm.trans hr)
        rw [hleft]
        exact hown.called s

/-- A template that comes of what a page holds by conversions, and that is made a call with a hook that is accepted and
a template again without a title, after any edits, has the title that its pristine copy has in exactly these cases: it
was not a call before, or only under empty titles, or the first title under which it was made one that is not empty is
read as the title that it has. -/
theorem Page.title_restored_iff {t : ScannedTemplate} (h : page.Yields left (.scannedTemplate t))
    (edits : List Node.Edit) {hook : Value} {verbose : Bool} {m : Node}
    (hm : ((Node.scannedTemplate t).run edits).converted (.toCall hook verbose) = .ok (some m))
    (later : List Node.Edit) {hierarchies : Value} {loud : Bool} {u : Node}
    (hu : (m.run later).converted (.toTemplate .null hierarchies loud) = .ok (some u)) :
    ((Node.scannedTemplate t).run edits).pristine = .ok (.scannedTemplate t) ∧
      ∃ restored, u = .scannedTemplate restored ∧
        (restored.title = t.title ↔
          ∀ s, firstTitle? left = some s → Title.transcluded (some t.title.site) (.text s) = .ok t.title) := by
  obtain ⟨source, hbuild⟩ := h.exists_source
  have hpristine := Node.pristine_run_of_build hbuild edits
  refine ⟨hpristine, ?_⟩
  -- Edits are of no account for conversions, so both of them start from the node that was made of its record.
  rw [Node.converted_run_of_build hbuild edits id] at hm
  obtain ⟨call, hcall, rfl⟩ := Node.exists_of_attempted hm
  obtain ⟨hooked, hread⟩ := ScannedCall.exists_of_ofHook (Attempt.eq_ok_of_result hcall)
  obtain ⟨hsite, hrecord⟩ := ScannedCall.ofRecord_eq_ok hread
  have hkept : call.record.templateTitle = .text ((firstTitle? left).getD t.record.title) := by
    rw [hrecord]
    exact BraceRecord.keptTitle_of_remembers (h.remembers rfl)
  have hcalled : (Node.Source.call (some t.title.site) _).build = .ok (.scannedCall call) :=
    Outcome.map_eq_ok.mpr ⟨call, hread, rfl⟩
  rw [Node.converted_run_of_build hcalled later id, Node.converted_of_templateTitle hkept, Attempt.outcome_eq_some_iff,
    Outcome.map_eq_ok, ← hsite] at hu
  obtain ⟨restored, hrestored, rfl⟩ := hu
  refine ⟨restored, rfl, ?_⟩
  have htitle : Title.transcluded (some t.title.site) (.text ((firstTitle? left).getD t.record.title)) =
      .ok restored.title := ScannedTemplate.transcluded_of_ofRecord hrestored
  cases hfirst : firstTitle? left with
  | none =>
    -- The call remembers the title that the template was read with.
    obtain ⟨own, hown, hsame⟩ := Outcome.map_eq_ok.mp (Node.pristine_of_build hbuild)
    obtain rfl := Node.scannedTemplate.inj hsame
    have hagain := ScannedTemplate.transcluded_of_ofRecord hown
    rw [hfirst] at htitle
    exact iff_of_true (Except.ok.inj (htitle.symm.trans hagain)) (by simp)
  | some s =>
    rw [hfirst] at htitle
    constructor
    · rintro hsame _ ⟨⟩
      exact htitle.trans (congrArg Except.ok hsame)
    · exact fun hagain => Except.ok.inj (htitle.symm.trans (hagain s rfl))

/-- The record of the template of `localPage` with another title, and with a title that it remembers. -/
def localRecord (title : Text) (templateTitle : Plain) : BraceRecord :=
  { BraceRecord.ofBrace [localBrace.span] [] localBrace with title, templateTitle }

theorem exists_template_localPage : ∃ t, localPage.templates = .ok [.template t] ∧
    localPage.Yields [] (.scannedTemplate t) ∧
    ScannedTemplate.ofRecord (some braceSampleSite) (localRecord ['a'] .null) .null = .ok t := by
  obtain ⟨t, ht, hread⟩ : ∃ t : ScannedTemplate,
      localPage.templatesOf (braceRecordsOf [] [localBrace]) = .ok [.template t] ∧
      ScannedTemplate.ofRecord (some braceSampleSite) (localRecord ['a'] .null) .null = .ok t := ⟨_, rfl, rfl⟩
  have htemplates : localPage.templates = .ok [.template t] := by
    rw [← ht, ← braces_localPage]
    rfl
  exact ⟨t, htemplates, .held (Or.inl ⟨_, _, _, _, htemplates, .template t, List.mem_cons_self, rfl⟩), hread⟩

theorem exists_call_localPage :
    ∃ call, ScannedCall.ofRecord (some braceSampleSite) (localRecord "#if: x".toList (.text ['a'])) = .ok call :=
  ⟨_, rfl⟩

/-- A template that is made a call twice, and comes back without a title being named each time. -/
theorem Page.title_restored_localPage : ∃ t m v w, localPage.templates = .ok [.template t] ∧
    (Node.scannedTemplate t).converted (.toCall (.text "#if: x".toList) false) = .ok (some m) ∧
    m.converted (.toTemplate .null .null false) = .ok (some (.scannedTemplate v)) ∧
    ((Node.scannedTemplate v).run [.title (.text "Bar".toList) false]).converted
      (.toCall (.text "#if: x".toList) false) = .ok (some m) ∧
    m.converted (.toTemplate .null .null false) = .ok (some (.scannedTemplate w)) ∧ w.title = v.title := by
  obtain ⟨t, htemplates, hheld, ht⟩ := exists_template_localPage
  obtain ⟨call, hcall⟩ := exists_call_localPage
  obtain ⟨v, hv⟩ : ∃ v, ScannedTemplate.ofRecord (some braceSampleSite) (localRecord ['a'] (.text ['a'])) .null =
      .ok v := ⟨_, rfl⟩
  have hcalled : (Node.scannedTemplate t).converted (.toCall (.text "#if: x".toList) false) =
      .ok (some (.scannedCall call)) := Node.converted_toCall_of_ofRecord ht hcall
  have hback : (Node.scannedCall call).converted (.toTemplate .null .null false) = .ok (some (.scannedTemplate v)) :=
    Node.converted_toTemplate_of_ofRecord hcall (Or.inr ⟨rfl, rfl⟩) hv
  have hyields : localPage.Yields ([] ++ [t.record.title]) (.scannedTemplate v) :=
    (hheld.unedited hcalled).unedited hback
  have hagain : ((Node.scannedTemplate v).run [.title (.text "Bar".toList) false]).converted
      (.toCall (.text "#if: x".toList) false) = .ok (some (.scannedCall call)) := by
    have hbuild : (Node.Source.template _ _ _).build = .ok (.scannedTemplate v) := Outcome.map_eq_ok.mpr ⟨v, hv, rfl⟩
    rw [Node.converted_run_of_build hbuild _ id]
    exact Node.converted_toCall_of_ofRecord hv hcall
  obtain ⟨-, w, hw, hrestored⟩ := title_restored_iff hyields _ hagain [] hback
  refine ⟨t, _, v, w, htemplates, hcalled, hback, hagain, hback.trans (by rw [hw]), hrestored.mpr ?_⟩
  obtain ⟨-, hrecord, -⟩ := ScannedTemplate.ofRecord_eq_ok ht
  obtain ⟨hsite, -, -⟩ := ScannedTemplate.ofRecord_eq_ok hv
  have htitle : Title.transcluded (some braceSampleSite) (.text ['a']) = .ok v.title :=
    ScannedTemplate.transcluded_of_ofRecord hv
  intro s hs
  rw [hrecord] at hs
  obtain rfl : ['a'] = s := Option.some.inj hs
  exact hsite ▸ htitle

/-- A template that is made a call, then a template with another title, and then the call again: without a title being
named it comes back with its first title, not with the one that it had when it was made a call. -/
theorem Page.title_not_restored_localPage : ∃ t m v w, localPage.templates = .ok [.template t] ∧
    (Node.scannedTemplate t).converted (.toCall (.text "#if: x".toList) false) = .ok (some m) ∧
    m.converted (.toTemplate (.text "Bar".toList) .null false) = .ok (some (.scannedTemplate v)) ∧
    (Node.scannedTemplate v).pristine = .ok (.scannedTemplate v) ∧
    (Node.scannedTemplate v).converted (.toCall (.text "#if: x".toList) false) = .ok (some m) ∧
    m.converted (.toTemplate .null .null false) = .ok (some (.scannedTemplate w)) ∧
    v.title.main = "Bar".toList ∧ w.title.main = ['a'] ∧ w.title ≠ v.title := by
  obtain ⟨t, htemplates, -, ht⟩ := exists_template_localPage
  obtain ⟨call, hcall⟩ := exists_call_localPage
  obtain ⟨v, hv, hnamed⟩ : ∃ v, ScannedTemplate.ofRecord (some braceSampleSite)
      (localRecord "Bar".toList (.text ['a'])) .null = .ok v ∧ v.title.main = "Bar".toList := ⟨_, rfl, rfl⟩
  obtain ⟨w, hw, hfirst⟩ : ∃ w, ScannedTemplate.ofRecord (some braceSampleSite)
      (localRecord ['a'] (.text ['a'])) .null = .ok w ∧ w.title.main = ['a'] := ⟨_, rfl, rfl⟩
  have hbuild : (Node.Source.template _ _ _).build = .ok (.scannedTemplate v) := Outcome.map_eq_ok.mpr ⟨v, hv, rfl⟩
  have hne : w.title ≠ v.title := by
    intro hsame
    rw [hsame, hnamed] at hfirst
    exact absurd hfirst (by decide)
  exact ⟨t, _, v, w, htemplates, Node.converted_toCall_of_ofRecord ht hcall,
    Node.converted_toTemplate_of_ofRecord hcall (Or.inl rfl) hv, Node.pristine_of_build hbuild,
    Node.converted_toCall_of_ofRecord hv hcall, Node.converted_toTemplate_of_ofRecord hcall (Or.inr ⟨rfl, rfl⟩) hw,
    hnamed, hfirst, hne⟩

end PageMarkup
