import PageMarkup.Proofs.Node.ConvertedTitles
import PageMarkup.Proofs.Node.Made
import PageMarkup.Proofs.Reported
import PageMarkup.Proofs.Written

/-!
# Attempts at nodes

A node that is given a title or a hook either has it afterwards, and is the same otherwise, or is as it was
(`Node.title_cases`, `Node.hook_cases`). A conversion yields a node or nothing (`Node.conversion_cases`): what it may go
wrong with is reported, save a key that is too long a numeral. But the value that a title or a conversion was asked with
is named in the words for the failure, so that one which cannot be written out is a fault there
(`Node.changed?_title_unwritable`). Titles fit the places of the nodes that have them, from the making of a node on and
through all edits (`Node.titleFits_run`), and a node that is converted is made anew, of a record of the same construct.
`Node.attempts_of_made` has all this of nodes that are made and edited.
-/
namespace PageMarkup

/-! ## Titles that fit -/

namespace Title

/-- Whether the title names a page that can be transcluded. -/
def FitsTemplate (t : Title) : Prop := t.main ≠ [] ∧ (t.isExternal = true → t.isTranscludable = true)

/-- Whether a link with the title leads to a page: a title in the namespace of files has a leading colon. -/
def FitsPageLink (t : Title) : Prop := t.namespaceId = t.site.fileId → t.leadingColon = true

/-- Whether a link with the title embeds a file of the same wiki. -/
def FitsFileLink (t : Title) : Prop :=
  t.namespaceId = t.site.fileId ∧ t.isExternal = false ∧ t.leadingColon = false

variable {site : Option Site} {v : Value} {t : Title}

theorem fitsTemplate_of_transcluded (h : transcluded site v = .ok t) : t.FitsTemplate := (read_of_transcluded h).2.2

theorem fitsPageLink_of_targeted (h : targeted site v = .ok t) : t.FitsPageLink := by
  obtain ⟨title, -, h⟩ := Outcome.bind_eq_ok.mp h
  split at h
  · simp at h
  · rename_i hplace
    obtain rfl := Except.ok.inj h
    intro hfile
    simpa [hfile] using hplace

theorem fitsFileLink_of_embedded (h : embedded site v = .ok t) : t.FitsFileLink := by
  obtain ⟨title, -, h⟩ := Outcome.bind_eq_ok.mp h
  split at h
  · simp at h
  · rename_i hexternal
    split at h
    · simp at h
    · rename_i hcolon
      split at h
      · simp at h
      · rename_i hnamespace
        obtain rfl := Except.ok.inj h
        exact ⟨not_not.mp hnamespace, by simpa using hexternal, by simpa using hcolon⟩

end Title

/-! ## What attempts come to -/

namespace Attempt

variable {α β : Type} {action : Except Unwritable Text} {verbose : Bool} {fault : Fault}

theorem outcome_map (f : α → β) (x : Except Fault α) :
    outcome action verbose (f <$> x) = Option.map f <$> outcome action verbose x := by
  cases x with
  | ok a => rfl
  | error fault =>
    cases hreport : fault.isReportable with
    | true => cases hwording : wording action verbose fault <;> simp [outcome, hreport, hwording, Functor.map, Except.map]
    | false => simp [outcome, hreport, Functor.map, Except.map]

/-- A fault that can be reported leaves nothing if the action can be put into words. -/
theorem outcome_error_of_isReported {words : Text} (haction : action = .ok words) (h : fault.IsReported) :
    outcome action verbose (.error fault : Except Fault α) = .ok none := by
  obtain ⟨hreport, s, hmessage⟩ := h
  cases verbose <;> simp [outcome, wording, haction, hreport, hmessage, Functor.map, Except.map]

theorem outcome_error_of_unwritable {why : Unwritable} (haction : action = .error why) (h : fault.isReportable = true) :
    outcome action verbose (.error fault : Except Fault α) = .error (.unwritable why) := by
  simp [outcome, wording, haction, h]

end Attempt

/-- Whether the action names the value: it can be put into words if and only if the value can be written out. -/
structure Names (action : Except Unwritable Text) (v : Value) : Prop where
  written : ∀ s, v.shown = .ok s → ∃ words, action = .ok words
  unwritable : ∀ why, v.shown = .error why → action = .error why

theorem names_actionWith (action name : String) (v : Value) : Names (actionWith action name v) v where
  written s h := ⟨_, Outcome.bind_eq_ok.mpr ⟨s, h, rfl⟩⟩
  unwritable _ h := Outcome.bind_eq_error.mpr (Or.inl h)

theorem names_settingTitle (v : Value) : Names (settingTitle v) v := names_actionWith _ _ v

/-- Whether the operation has a fault that attempts do not pass on. -/
def Refuses {α : Type} (x : Except Fault α) : Prop := ∃ fault, x = .error fault ∧ fault.isReportable = true

section

variable {α β : Type} {x : Except Fault α}

theorem Reports.refuses (hreports : Reports x) (h : ∀ a, x ≠ .ok a) : Refuses x := by
  cases x with
  | ok a => exact absurd rfl (h a)
  | error fault => exact ⟨fault, rfl, (hreports fault rfl).1⟩

theorem Reports.refuses_bind {f : α → Except Fault β} (hreports : Reports x) (h : ∀ a, Refuses (f a)) :
    Refuses (x >>= f) := by
  cases x with
  | ok a => exact h a
  | error fault => exact ⟨fault, rfl, (hreports fault rfl).1⟩

theorem Refuses.map (h : Refuses x) (f : α → β) : Refuses (f <$> x) := by
  obtain ⟨fault, rfl, hreport⟩ := h
  exact ⟨fault, rfl, hreport⟩

end

/-- A value that cannot be written out is no title and is made no template of. -/
theorem ScannedTemplate.refuses_ofTitle {title : Value} (h : title.text? = none) (site : Option Site)
    (record : BraceRecord) (hierarchies : Value) : Refuses (ofTitle site record title hierarchies) := by
  unfold ofTitle
  split
  · simp [Datum.text?] at h
  · exact ⟨_, rfl, rfl⟩

theorem ScannedCall.refuses_ofHook {hook : Value} (h : hook.text? = none) (site : Option Site) (record : BraceRecord)
    (templateTitle : Plain) : Refuses (ofHook site record templateTitle hook) := by
  unfold ofHook
  split
  · simp [Datum.text?] at h
  · exact ⟨_, rfl, rfl⟩

namespace Node

/-- Whether the title of the node, if it has one that was read, fits its place. -/
def TitleFits : Node → Prop
  | template t => t.title.FitsTemplate
  | scannedTemplate t => t.title.FitsTemplate
  | link l => l.title.FitsPageLink
  | scannedLink l => l.title.FitsPageLink
  | fileLink l => l.title.FitsFileLink
  | scannedFileLink l => l.title.FitsFileLink
  | rawTemplate _ | call _ | scannedCall _ | rawLink _ | scannedRawLink _ => True

/-- The node with another title. -/
def withTitle (title : Title) : Node → Node
  | template t => template { t with title }
  | scannedTemplate t => scannedTemplate { t with title }
  | link l => link { l with title }
  | scannedLink l => scannedLink { l with title }
  | fileLink l => fileLink { l with title }
  | scannedFileLink l => scannedFileLink { l with title }
  | node => node

/-- The title that a value stands for, if it fits the place of the node's own. -/
def fitTitle (node : Node) (v : Value) : Except Fault Title :=
  match node with
  | template t => Title.transcluded (some t.title.site) v
  | scannedTemplate t => Title.transcluded (some t.title.site) v
  | link l => Title.targeted (some l.title.site) v
  | scannedLink l => Title.targeted (some l.title.site) v
  | fileLink l => Title.embedded (some l.title.site) v
  | scannedFileLink l => Title.embedded (some l.title.site) v
  | node => .error (.unsupported node.name)

/-- The call with another hook. -/
def withHook (verified : VerifiedHook) : Node → Node
  | call c => call { c with hook := verified.written, canonical := verified.canonical }
  | scannedCall c => scannedCall { c with hook := verified.written, canonical := verified.canonical }
  | node => node

variable {node m : Node}

theorem titleFits_withTitle {v : Value} {t : Title} (h : node.fitTitle v = .ok t) : (node.withTitle t).TitleFits := by
  cases node with
  | template u | scannedTemplate u => exact Title.fitsTemplate_of_transcluded h
  | link l | scannedLink l => exact Title.fitsPageLink_of_targeted h
  | fileLink l | scannedFileLink l => exact Title.fitsFileLink_of_embedded h
  | _ => trivial

theorem reports_fitTitle (h : node.title?.isSome = true) (v : Value) : Reports (node.fitTitle v) := by
  cases node with
  | template u | scannedTemplate u => exact Title.reports_transcluded _ v
  | link l | scannedLink l => exact Title.reports_targeted _ v
  | fileLink l | scannedFileLink l => exact Title.reports_embedded _ v
  | _ => simp [title?] at h

/-- What fits the place of the title can be written out. -/
theorem exists_shown_of_fitTitle {v : Value} {t : Title} (h : node.fitTitle v = .ok t) : ∃ s, v.shown = .ok s := by
  cases node with
  | template u | scannedTemplate u => exact Title.exists_shown_of_transcluded h
  | link l | scannedLink l => exact Title.exists_shown_of_linked (Title.linked_of_targeted h)
  | fileLink l | scannedFileLink l => exact Title.exists_shown_of_linked (Title.linked_of_embedded h)
  | _ => simp [fitTitle] at h

/-! ## New titles and hooks -/

section

variable {α β : Type} {action : Except Unwritable Text} {shown : Text} {verbose : Bool}

/-- A node that is made of the result of an attempt comes to what is made of what the operation comes to. -/
theorem result_attempted_of (make : α → Node) (x : Except Fault α) :
    Attempt.result <$> attempted make (Attempt.of action shown verbose x) =
      Attempt.outcome action verbose (make <$> x) := by
  rw [result_attempted, Attempt.result_of, Attempt.outcome_map]

/-- A node that is made of a title that is read. -/
theorem result_attempted_title (make : α → Node) (renew : Title → α) (x : Except Fault Title) :
    Attempt.result <$> attempted make (Attempt.of action shown verbose do return renew (← x)) =
      Option.map (fun title => make (renew title)) <$> Attempt.outcome action verbose x := by
  rw [result_attempted_of, ← Attempt.outcome_map, bind_pure_comp, Functor.map_map]

/-- A found node that is made of a title that is read for the node which it extends. -/
theorem result_attempted_extended (make : β → Node) (extend : α → β) (renew : Title → α) (x : Except Fault Title) :
    Attempt.result <$> attempted make (do
      let attempt ← Attempt.of action shown verbose do return renew (← x)
      return ⟨attempt.result.map extend, attempt.report⟩) =
      Option.map (fun title => make (extend (renew title))) <$> Attempt.outcome action verbose x := by
  rw [result_attempted, Attempt.result_bind_map, Attempt.result_of, bind_pure_comp, ← Attempt.outcome_map,
    ← Attempt.outcome_map, ← Attempt.outcome_map, Functor.map_map, Functor.map_map]

end

/-- A node that is to be given a title comes to the node with that title, or to nothing. -/
theorem changed?_title (h : node.title?.isSome = true) (v : Value) (verbose : Bool) :
    node.changed? (.title v verbose) =
      Option.map (node.withTitle ·) <$> Attempt.outcome (settingTitle v) verbose (node.fitTitle v) := by
  cases node with
  | template t => exact result_attempted_title template _ _
  | scannedTemplate t => exact result_attempted_extended scannedTemplate _ _ _
  | link l => exact result_attempted_title link _ _
  | scannedLink l => exact result_attempted_extended scannedLink _ _ _
  | fileLink l => exact result_attempted_title fileLink _ _
  | scannedFileLink l => exact result_attempted_extended scannedFileLink _ _ _
  | _ => simp [title?] at h

/-- A value that cannot be written out fits no title, and cannot be named in the words for that failure. -/
theorem changed?_title_unwritable (h : node.title?.isSome = true) {v : Value} {why : Unwritable}
    (hv : v.shown = .error why) (verbose : Bool) :
    node.changed? (.title v verbose) = .error (.unwritable why) := by
  obtain ⟨fault, hfault, hreported⟩ : Refuses (node.fitTitle v) := by
    refine (reports_fitTitle h v).refuses fun t hfit => ?_
    obtain ⟨s, hs⟩ := exists_shown_of_fitTitle hfit
    simp [hv] at hs
  rw [changed?_title h, hfault,
    Attempt.outcome_error_of_unwritable ((names_settingTitle v).unwritable why hv) hreported]
  rfl

/-- A node that is given a title either has it afterwards or is as it was. -/
theorem title_cases (h : node.title?.isSome = true) {v : Value} {s : Text} (hv : v.shown = .ok s) (verbose : Bool) :
    (node.changed? (.title v verbose) = .ok none ∧ node.after (.title v verbose) = node) ∨
      ∃ t, node.fitTitle v = .ok t ∧ node.changed? (.title v verbose) = .ok (some (node.withTitle t)) ∧
        node.after (.title v verbose) = node.withTitle t := by
  have hchanged := changed?_title h v verbose
  cases hfit : node.fitTitle v with
  | ok t =>
    have hsome : node.changed? (.title v verbose) = .ok (some (node.withTitle t)) := by
      rw [hchanged, hfit]
      rfl
    exact Or.inr ⟨t, rfl, hsome, by rw [after, hsome]⟩
  | error fault =>
    obtain ⟨words, hwords⟩ := (names_settingTitle v).written s hv
    have hnone : node.changed? (.title v verbose) = .ok none := by
      rw [hchanged, hfit, Attempt.outcome_error_of_isReported hwords (reports_fitTitle h v fault hfit)]
      rfl
    exact Or.inl ⟨hnone, by rw [after, hnone]⟩

/-- A call that is given a hook either has it afterwards, if the site knows it, or is as it was. -/
theorem hook_cases {c : FunctionCall} (h : node.call? = some c) (v : Value) :
    (node.changed? (.hook v) = .ok none ∧ node.after (.hook v) = node) ∨
      ∃ verified, c.site.verifyHook v = some verified ∧
        node.changed? (.hook v) = .ok (some (node.withHook verified)) ∧
        node.after (.hook v) = node.withHook verified := by
  have hchanged : node.changed? (.hook v) = .ok ((c.site.verifyHook v).map (node.withHook ·)) := by
    cases node with
    | call c =>
      obtain rfl := Option.some.inj h
      simp [changed?, setHook?, FunctionCall.setHook?, withHook, Function.comp_def]
    | scannedCall c =>
      obtain rfl := Option.some.inj h
      simp [changed?, setHook?, ScannedCall.setHook?, FunctionCall.setHook?, withHook, Function.comp_def]
    | _ => simp [call?] at h
  cases hverify : c.site.verifyHook v with
  | none =>
    rw [hverify] at hchanged
    exact Or.inl ⟨hchanged, by rw [after, hchanged]; rfl⟩
  | some verified =>
    rw [hverify] at hchanged
    exact Or.inr ⟨verified, rfl, hchanged, by rw [after, hchanged]; rfl⟩

/-! ## Titles through edits -/

/-- A title that was read, in the place of a node's title. -/
inductive Titled where
  | template (t : Title)
  | pageLink (t : Title)
  | fileLink (t : Title)

namespace Titled

def title : Titled → Title
  | template t | pageLink t | fileLink t => t

def Fits : Titled → Prop
  | template t => t.FitsTemplate
  | pageLink t => t.FitsPageLink
  | fileLink t => t.FitsFileLink

/-- Whether the check of the place has accepted the title for some value. -/
def Accepted : Titled → Prop
  | template t => ∃ site v, Title.transcluded site v = .ok t
  | pageLink t => ∃ site v, Title.targeted site v = .ok t
  | fileLink t => ∃ site v, Title.embedded site v = .ok t

theorem Accepted.fits {p : Titled} (h : p.Accepted) : p.Fits := by
  cases p with
  | template t =>
    obtain ⟨site, v, h⟩ := h
    exact Title.fitsTemplate_of_transcluded h
  | pageLink t =>
    obtain ⟨site, v, h⟩ := h
    exact Title.fitsPageLink_of_targeted h
  | fileLink t =>
    obtain ⟨site, v, h⟩ := h
    exact Title.fitsFileLink_of_embedded h

theorem Accepted.exists_read {p : Titled} (h : p.Accepted) :
    ∃ given fallback, Title.read p.title.site given fallback = .ok p.title := by
  cases p with
  | template t =>
    obtain ⟨site, v, h⟩ := h
    exact (Title.read_of_transcluded h).1
  | pageLink t =>
    obtain ⟨site, v, h⟩ := h
    exact Title.exists_read_of_linked (Title.linked_of_targeted h)
  | fileLink t =>
    obtain ⟨site, v, h⟩ := h
    exact Title.exists_read_of_linked (Title.linked_of_embedded h)

end Titled

/-- The title of the node in its place, if it has one that was read. -/
def titled? : Node → Option Titled
  | template t => some (.template t.title)
  | scannedTemplate t => some (.template t.title)
  | link l => some (.pageLink l.title)
  | scannedLink l => some (.pageLink l.title)
  | fileLink l => some (.fileLink l.title)
  | scannedFileLink l => some (.fileLink l.title)
  | rawTemplate _ | call _ | scannedCall _ | rawLink _ | scannedRawLink _ => none

/-- Whether the title of the node was accepted, if it has one that was read. -/
def TitleAccepted (node : Node) : Prop := ∀ p, node.titled? = some p → p.Accepted

theorem titleFits_iff (node : Node) : node.TitleFits ↔ ∀ p, node.titled? = some p → p.Fits := by
  cases node <;> simp [TitleFits, titled?, Titled.Fits]

theorem title?_eq_map (node : Node) : node.title? = node.titled?.map Titled.title := by
  cases node <;> rfl

theorem TitleAccepted.titleFits (h : node.TitleAccepted) : node.TitleFits :=
  node.titleFits_iff.mpr fun p hp => (h p hp).fits

theorem TitleAccepted.exists_read (h : node.TitleAccepted) {t : Title} (ht : node.title? = some t) :
    ∃ given fallback, Title.read t.site given fallback = .ok t := by
  rw [title?_eq_map] at ht
  obtain ⟨p, hp, rfl⟩ := Option.map_eq_some_iff.mp ht
  exact (h p hp).exists_read

theorem titleAccepted_withTitle {v : Value} {t : Title} (h : node.fitTitle v = .ok t) :
    (node.withTitle t).TitleAccepted := by
  intro p hp
  cases node with
  | template u | scannedTemplate u | link u | scannedLink u | fileLink u | scannedFileLink u =>
    obtain rfl := Option.some.inj hp
    exact ⟨_, v, h⟩
  | _ => simp [fitTitle] at h

theorem titled?_of_setDisplay {display : Value} (hm : node.setDisplay display = .ok m) : m.titled? = node.titled? := by
  cases node with
  | link l | scannedLink l | rawLink l | scannedRawLink l =>
    obtain ⟨u, hu, rfl⟩ := Outcome.map_eq_ok.mp hm
    obtain ⟨shown, -, hpure⟩ := Outcome.bind_eq_ok.mp hu
    obtain rfl := Except.ok.inj hpure
    rfl
  | _ => simp [setDisplay] at hm

/-- A node without a title that was read has none after it was given a text for its title. -/
theorem titled?_of_setTitle {title : Value} {verbose : Bool} (hnone : ¬ node.title?.isSome = true)
    (hm : Attempt.result <$> node.setTitle title verbose = .ok (some m)) : m.titled? = node.titled? := by
  cases node with
  | rawTemplate t | rawLink l | scannedRawLink l =>
    obtain ⟨attempt, hattempt, hresult⟩ := Outcome.map_eq_ok.mp hm
    obtain ⟨u, -, hpure⟩ := Outcome.bind_eq_ok.mp hattempt
    obtain rfl := Except.ok.inj hpure
    obtain rfl := Option.some.inj hresult
    rfl
  | call c | scannedCall c => simp [setTitle, Functor.map, Except.map] at hm
  | _ => simp [title?] at hnone

/-- An edit leaves the title of a node, or gives the node another one that fits. -/
theorem titled?_after_cases (node : Node) (edit : Edit) :
    (node.after edit).titled? = node.titled? ∨ ∃ v t, node.fitTitle v = .ok t ∧ node.after edit = node.withTitle t := by
  cases edit with
  | params edit =>
    left
    cases htable : node.table? with
    | none => simp [after, changed?, htable]
    | some table =>
      have hafter : node.after (.params edit) = node.withTable (table.after edit) := by simp [after, changed?, htable]
      rw [hafter]
      cases node <;> rfl
  | slots edit =>
    left
    cases hslots : node.slots? with
    | none => simp [after, changed?, hslots]
    | some slots =>
      have hafter : node.after (.slots edit) = node.withSlots (slots.after edit) := by simp [after, changed?, hslots]
      rw [hafter]
      cases node <;> rfl
  | title title verbose =>
    by_cases htitle : node.title?.isSome = true
    · cases hshown : title.shown with
      | ok s =>
        obtain ⟨-, hafter⟩ | ⟨t, hfit, -, hafter⟩ := title_cases htitle hshown verbose
        · exact Or.inl (by rw [hafter])
        · exact Or.inr ⟨title, t, hfit, hafter⟩
      | error why => exact Or.inl (by rw [after, changed?_title_unwritable htitle hshown])
    · left
      unfold after
      split
      · rename_i changed hchanged
        exact titled?_of_setTitle htitle hchanged
      · rfl
  | hook hook =>
    left
    cases hcall : node.call? with
    | none =>
      have hafter : node.after (.hook hook) = node := by
        cases node <;> first | rfl | simp [call?] at hcall
      rw [hafter]
    | some c =>
      obtain ⟨-, hafter⟩ | ⟨verified, -, -, hafter⟩ := hook_cases hcall hook
      · rw [hafter]
      · rw [hafter]
        cases node <;> rfl
  | display display =>
    left
    unfold after
    split
    · rename_i changed hchanged
      obtain ⟨u, hu, hsome⟩ := Outcome.map_eq_ok.mp hchanged
      obtain rfl := Option.some.inj hsome
      exact titled?_of_setDisplay hu
    · rfl

theorem titleAccepted_after (h : node.TitleAccepted) (edit : Edit) : (node.after edit).TitleAccepted := by
  obtain hsame | ⟨v, t, hfit, hafter⟩ := titled?_after_cases node edit
  · rwa [TitleAccepted, hsame]
  · rw [hafter]
    exact titleAccepted_withTitle hfit

/-- The title of a node was accepted when the node was made. -/
theorem Made.titleAccepted (h : node.Made) : node.TitleAccepted := by
  intro p hp
  cases h with
  | template hcreate | link hcreate | fileLink hcreate =>
    obtain ⟨title, htitle, hrest⟩ := Outcome.bind_eq_ok.mp hcreate
    obtain ⟨rest, -, hpure⟩ := Outcome.bind_eq_ok.mp hrest
    obtain rfl := Except.ok.inj hpure
    obtain rfl := Option.some.inj hp
    exact ⟨_, _, htitle⟩
  | call hcreate | rawLink hcreate => simp [titled?] at hp
  | @found source _ hbuild =>
    cases source with
    | template site record hierarchies =>
      obtain ⟨t, ht, rfl⟩ := Outcome.map_eq_ok.mp hbuild
      obtain ⟨title, htitle, hrest⟩ := Outcome.bind_eq_ok.mp ht
      obtain ⟨chains, -, hrest⟩ := Outcome.bind_eq_ok.mp hrest
      obtain ⟨params, -, hpure⟩ := Outcome.bind_eq_ok.mp hrest
      obtain rfl := Except.ok.inj hpure
      obtain rfl := Option.some.inj hp
      exact ⟨_, _, htitle⟩
    | link site record | fileLink site record =>
      obtain ⟨l, hl, rfl⟩ := Outcome.map_eq_ok.mp hbuild
      obtain ⟨title, htitle, hpure⟩ := Outcome.bind_eq_ok.mp hl
      obtain rfl := Except.ok.inj hpure
      obtain rfl := Option.some.inj hp
      exact ⟨_, _, htitle⟩
    | rawTemplate site record hierarchies | call site record =>
      obtain ⟨u, -, rfl⟩ := Outcome.map_eq_ok.mp hbuild
      simp [titled?] at hp
    | rawLink site record =>
      obtain rfl := Except.ok.inj hbuild
      simp [titled?] at hp

theorem titleAccepted_run (h : node.Made) (edits : List Edit) : (node.run edits).TitleAccepted :=
  run_induction (P := TitleAccepted) (fun _ edit h => titleAccepted_after h edit) h.titleAccepted edits

theorem titleFits_run (h : node.Made) (edits : List Edit) : (node.run edits).TitleFits :=
  (titleAccepted_run h edits).titleFits

end Node

/-! ## Conversions -/

/-- Whether two records are of one construct: it was written and found as the other one was, in the same setting, and
what else was given for it is the same but for what is displayed. -/
structure Origin.SameConstruct (o p : Origin) : Prop where
  written : p.written = o.written
  span : p.span = o.span
  nestLevel : p.nestLevel = o.nestLevel
  skipped : p.skipped = o.skipped
  given : ∀ name, name ≠ "display".toList → name ≠ "params".toList → p.given.lookup name = o.given.lookup name

/-- Whether two records are of one link, in the same place among the others. -/
structure LinkRecord.SameLink (r q : LinkRecord) : Prop extends Origin.SameConstruct r.toOrigin q.toOrigin where
  index : q.index = r.index
  parent : q.parent = r.parent
  children : q.children = r.children

theorem lookup_filter_of_forall {α : Type} {keep : Text × α → Bool} {name : Text}
    (h : ∀ value, keep (name, value) = true) (fields : List (Text × α)) :
    (fields.filter keep).lookup name = fields.lookup name := by
  induction fields with
  | nil => rfl
  | cons field rest ih =>
    obtain ⟨key, value⟩ := field
    by_cases hkey : name = key
    · subst hkey
      rw [List.filter_cons_of_pos (h value)]
      simp
    · have hne : (name == key) = false := by simpa using hkey
      by_cases hkeep : keep (key, value) = true
      · rw [List.filter_cons_of_pos hkeep, List.lookup_cons, List.lookup_cons, hne]
        exact ih
      · rw [List.filter_cons_of_neg hkeep, List.lookup_cons, hne]
        exact ih

theorem LinkRecord.sameLink_retitled (r : LinkRecord) (title : Text) : r.SameLink { r with title } where
  written := rfl
  span := rfl
  nestLevel := rfl
  skipped := rfl
  given _ _ _ := rfl
  index := rfl
  parent := rfl
  children := rfl

theorem LinkRecord.sameLink_showing (r : LinkRecord) (display : Option Text) (params : Option (List Text)) (title : Text) :
    r.SameLink { r.showing display params with title } where
  written := rfl
  span := rfl
  nestLevel := rfl
  skipped := rfl
  given name hdisplay hparams := by
    refine lookup_filter_of_forall (fun value => ?_) r.given
    exact Bool.and_eq_true_iff.mpr ⟨decide_eq_true hdisplay, decide_eq_true hparams⟩
  index := rfl
  parent := rfl
  children := rfl

theorem ScannedCall.exists_of_ofHook {site : Option Site} {record : BraceRecord} {templateTitle : Plain} {hook : Value}
    {call : ScannedCall} (h : ofHook site record templateTitle hook = .ok call) :
    ∃ s, ofRecord site { record with title := s, templateTitle } = .ok call := by
  unfold ofHook at h
  split at h
  · exact ⟨_, h⟩
  · simp at h

namespace Node

/-- Whether the construct that was found for a node is the one that was found for the other node. -/
structure SameConstruct (node m : Node) : Prop where
  brace : ∀ r, node.braceRecord? = some r → ∃ q, m.braceRecord? = some q ∧ r.toOrigin.SameConstruct q.toOrigin
  link : ∀ r, node.linkRecord? = some r → ∃ q, m.linkRecord? = some q ∧ r.SameLink q

/-- Whether nodes of this kind can be asked for the conversion. -/
def Offers : Node → Conversion → Prop
  | rawTemplate _, .toTemplate .. | scannedCall _, .toTemplate .. => True
  | scannedTemplate _, .toCall .. | rawTemplate _, .toCall .. => True
  | fileLink _, .toLink .. | scannedFileLink _, .toLink .. => True
  | rawLink _, .toLink .. | scannedRawLink _, .toLink .. => True
  | link _, .toFileLink .. | scannedLink _, .toFileLink .. => True
  | rawLink _, .toFileLink .. | scannedRawLink _, .toFileLink .. => True
  | _, _ => False

/-- The seeds of the construct in double braces that the node was made from. -/
def seeds (node : Node) : List SeedValue := (node.braceRecord?.map BraceRecord.seeds).getD []

/-- Whether the seeds of a template can be written as positional parameters. -/
def SeedsRead (node : Node) : Prop := node.table?.isSome = true → ∀ v ∈ node.seeds, ∃ s, v.lead = .ok s

/-- The value that the words for a conversion name. -/
def named (node : Node) : Conversion → Value
  | .toTemplate title _ _ =>
    match node with
    | scannedCall c => c.askedTitle title
    | _ => title
  | .toCall hook _ => hook
  | .toLink title _ | .toFileLink title _ => title

/-- Whether an attempt at an operation, in the words `action`, does what a conversion of the node is to do with a value:
what it yields is made anew, of a record of the same construct, and it has faults that are reported, save those of
seeds. A value that cannot be written out is refused. -/
structure Converts (node : Node) (given : Value) (action : Except Unwritable Text) (x : Except Fault Node) : Prop where
  names : Names action given
  made : ∀ m, x = .ok m → m.Made ∧ node.SameConstruct m
  fails : ∀ s, given.shown = .ok s → node.SeedsRead → Outcome.FailsOnly (Fault.IsOfSeeds node.seeds) x
  refuses : ∀ why, given.shown = .error why → Refuses x

variable {node : Node} {given : Value} {action : Except Unwritable Text}

/-- An operation whose faults are all reported, and that yields something only for a value that can be written out. -/
theorem Converts.of_reports {x : Except Fault Node} (hnames : Names action given)
    (hmade : ∀ m, x = .ok m → m.Made ∧ node.SameConstruct m) (hreports : Reports x)
    (hshown : ∀ m, x = .ok m → ∃ s, given.shown = .ok s) : node.Converts given action x where
  names := hnames
  made := hmade
  fails _ _ _ := hreports.isOfSeeds _
  refuses why hwhy := by
    refine hreports.refuses fun m hm => ?_
    obtain ⟨s, hs⟩ := hshown m hm
    simp [hwhy] at hs

/-! ### What is read from a record again -/

section

variable {r : BraceRecord} (hr : node.braceRecord? = some r) (hlink : node.linkRecord? = none)

include hr hlink

theorem converts_template {x : Except Fault ScannedTemplate} (hnames : Names action given)
    (hmade : ∀ t, x = .ok t → ∃ site title hierarchies, ScannedTemplate.ofTitle site r title hierarchies = .ok t)
    (hfails : Outcome.FailsOnly (Fault.IsOfSeeds r.seeds) x) (hrefuses : ∀ why, given.shown = .error why → Refuses x) :
    node.Converts given action (scannedTemplate <$> x) where
  names := hnames
  made m hm := by
    obtain ⟨t, ht, rfl⟩ := Outcome.map_eq_ok.mp hm
    obtain ⟨site, title, hierarchies, hof⟩ := hmade t ht
    obtain ⟨s, -, hread⟩ := ScannedTemplate.exists_of_ofTitle hof
    have hbuild : (Source.template site _ hierarchies).build = .ok (scannedTemplate t) := Outcome.map_eq_ok.mpr ⟨t, hread, rfl⟩
    refine ⟨.found hbuild, ?_, ?_⟩
    · intro o ho
      obtain rfl := Option.some.inj (hr.symm.trans ho)
      refine ⟨_, congrArg some (ScannedTemplate.record_ofRecord hread), rfl, rfl, rfl, rfl, fun _ _ _ => rfl⟩
    · simp [hlink]
  fails _ _ _ := by
    have hseeds : node.seeds = r.seeds := by rw [seeds, hr]; rfl
    rw [hseeds]
    exact hfails.map _
  refuses why hwhy := (hrefuses why hwhy).map _

theorem converts_call {x : Except Fault ScannedCall} (hnames : Names action given)
    (hmade : ∀ c, x = .ok c → ∃ site templateTitle hook, ScannedCall.ofHook site r templateTitle hook = .ok c)
    (hreports : ∀ s, given.shown = .ok s → node.SeedsRead → Reports x)
    (hrefuses : ∀ why, given.shown = .error why → Refuses x) : node.Converts given action (scannedCall <$> x) where
  names := hnames
  made m hm := by
    obtain ⟨c, hc, rfl⟩ := Outcome.map_eq_ok.mp hm
    obtain ⟨site, templateTitle, hook, hof⟩ := hmade c hc
    obtain ⟨s, hread⟩ := ScannedCall.exists_of_ofHook hof
    have hbuild : (Source.call site _).build = .ok (scannedCall c) := Outcome.map_eq_ok.mpr ⟨c, hread, rfl⟩
    refine ⟨.found hbuild, ?_, ?_⟩
    · intro o ho
      obtain rfl := Option.some.inj (hr.symm.trans ho)
      refine ⟨_, congrArg some (ScannedCall.record_ofRecord hread), rfl, rfl, rfl, rfl, fun _ _ _ => rfl⟩
    · simp [hlink]
  fails s hs hseeds := ((hreports s hs hseeds).isOfSeeds _).map _
  refuses why hwhy := (hrefuses why hwhy).map _

end

section

variable {r : LinkRecord} (hr : node.linkRecord? = some r) (hbrace : node.braceRecord? = none)
  (hnames : Names action given)

include hr hbrace hnames

theorem converts_scannedLink {site : Option Site} {record : LinkRecord} (hsame : ∀ title, r.SameLink { record with title }) :
    node.Converts given action (scannedLink <$> ScannedLink.ofTitle site record given) := by
  have hread : ∀ m, scannedLink <$> ScannedLink.ofTitle site record given = .ok m → ∃ l s, m = scannedLink l ∧
      given.fullTitleText.text? = some s ∧ ScannedLink.ofRecord site { record with title := s } = .ok l := by
    intro m hm
    obtain ⟨l, hl, rfl⟩ := Outcome.map_eq_ok.mp hm
    obtain ⟨s, hs, hof⟩ := ScannedLink.exists_of_ofTitle hl
    exact ⟨l, s, rfl, hs, hof⟩
  refine .of_reports hnames (fun m hm => ?_) ((ScannedLink.reports_ofTitle site given record).map _) fun m hm => ?_
  · obtain ⟨l, s, rfl, -, hof⟩ := hread m hm
    have hbuild : (Source.link site { record with title := s }).build = .ok (scannedLink l) :=
      Outcome.map_eq_ok.mpr ⟨l, hof, rfl⟩
    refine ⟨.found hbuild, by simp [hbrace], ?_⟩
    intro o ho
    obtain rfl := Option.some.inj (hr.symm.trans ho)
    exact ⟨_, congrArg some (ScannedLink.record_ofRecord hof), hsame s⟩
  · obtain ⟨l, s, -, hs, -⟩ := hread m hm
    exact Value.exists_shown_of_fullTitleText hs

theorem converts_scannedFileLink {site : Option Site} :
    node.Converts given action (scannedFileLink <$> ScannedFileLink.ofTitle site r given) := by
  have hread : ∀ m, scannedFileLink <$> ScannedFileLink.ofTitle site r given = .ok m → ∃ l s, m = scannedFileLink l ∧
      given.fullTitleText.text? = some s ∧ ScannedFileLink.ofRecord site
        { r.showing none (some (paramsOfDisplay r.display)) with title := s } = .ok l := by
    intro m hm
    obtain ⟨l, hl, rfl⟩ := Outcome.map_eq_ok.mp hm
    obtain ⟨s, hs, hof⟩ := ScannedFileLink.exists_of_ofTitle hl
    exact ⟨l, s, rfl, hs, hof⟩
  refine .of_reports hnames (fun m hm => ?_) ((ScannedFileLink.reports_ofTitle site given r).map _) fun m hm => ?_
  · obtain ⟨l, s, rfl, -, hof⟩ := hread m hm
    have hbuild : (Source.fileLink site _).build = .ok (scannedFileLink l) := Outcome.map_eq_ok.mpr ⟨l, hof, rfl⟩
    refine ⟨.found hbuild, by simp [hbrace], ?_⟩
    intro o ho
    obtain rfl := Option.some.inj (hr.symm.trans ho)
    exact ⟨_, congrArg some (ScannedFileLink.record_ofRecord hof), r.sameLink_showing _ _ s⟩
  · obtain ⟨l, s, -, hs, -⟩ := hread m hm
    exact Value.exists_shown_of_fullTitleText hs

end

/-! ### What a caller could have made -/

section

variable (hbrace : node.braceRecord? = none) (hlink : node.linkRecord? = none) (hnames : Names action given)
  (site : Option Site)

include hbrace hlink hnames

theorem converts_link (display : Value) : node.Converts given action (link <$> PageLink.create site given display) := by
  refine .of_reports hnames (fun m hm => ?_) ((PageLink.reports_create site given display).map _) fun m hm => ?_
  · obtain ⟨l, hl, rfl⟩ := Outcome.map_eq_ok.mp hm
    exact ⟨.link hl, by simp [hbrace], by simp [hlink]⟩
  · obtain ⟨l, hl, rfl⟩ := Outcome.map_eq_ok.mp hm
    obtain ⟨t, ht, -⟩ := Outcome.bind_eq_ok.mp hl
    exact Title.exists_shown_of_linked (Title.linked_of_targeted ht)

theorem converts_fileLink (params : Value) :
    node.Converts given action (fileLink <$> FileLink.create site given params) := by
  refine .of_reports hnames (fun m hm => ?_) ((FileLink.reports_create site given params).map _) fun m hm => ?_
  · obtain ⟨l, hl, rfl⟩ := Outcome.map_eq_ok.mp hm
    exact ⟨.fileLink hl, by simp [hbrace], by simp [hlink]⟩
  · obtain ⟨l, hl, rfl⟩ := Outcome.map_eq_ok.mp hm
    obtain ⟨t, ht, -⟩ := Outcome.bind_eq_ok.mp hl
    exact Title.exists_shown_of_linked (Title.linked_of_embedded ht)

end

/-! ### All conversions -/

/-- A raw template is made a template by an attempt at the text of the title, on the site of the title or its own. -/
theorem converted_toTemplate_rawTemplate (t : RawTemplate) (title hierarchies : Value) (verbose : Bool) :
    (rawTemplate t).converted (.toTemplate title hierarchies verbose) =
      Attempt.outcome (makingTemplate title) verbose (scannedTemplate <$> (t.siteFor title >>= fun site =>
        ScannedTemplate.ofTitle (some site) t.record title.titleText (ParamTable.chainsValue t.params.chains))) := by
  rw [converted, convert, toTemplate, RawTemplate.toTemplate_eq]
  exact result_attempted_of _ _

/-- A call is made a template by an attempt at the text that it is asked with, or that it had as a template. -/
theorem converted_toTemplate_scannedCall {call : ScannedCall} {title : Value} (h : call.askedTitle title ≠ .null)
    (hierarchies : Value) (verbose : Bool) :
    (scannedCall call).converted (.toTemplate title hierarchies verbose) =
      Attempt.outcome (makingTemplate (call.askedTitle title)) verbose (scannedTemplate <$>
        ScannedTemplate.ofTitle (some call.site) call.record (call.askedTitle title) hierarchies) := by
  rw [converted, convert, toTemplate, ScannedCall.toTemplate_eq h]
  exact result_attempted_of _ _

/-- A conversion that a node can be asked for comes to nothing, because there is no title, or to what an attempt comes to
that makes a node anew. -/
theorem conversion_cases {c : Conversion} (h : node.Offers c) :
    (node.converted c = .ok none ∧ ∃ s, (node.named c).shown = .ok s) ∨
      ∃ action verbose x, node.converted c = Attempt.outcome action verbose x ∧ node.Converts (node.named c) action x := by
  cases node with
  | rawTemplate t =>
    cases c with
    | toTemplate title hierarchies verbose =>
      refine Or.inr ⟨_, _, _, converted_toTemplate_rawTemplate t title hierarchies verbose,
        converts_template rfl rfl (names_actionWith _ _ title) (fun u hu => ?_) ?_ ?_⟩
      · obtain ⟨site, -, hof⟩ := Outcome.bind_eq_ok.mp hu
        exact ⟨_, _, _, hof⟩
      · refine ((t.reports_siteFor title).isOfSeeds _).bind fun site _ => ?_
        exact ScannedTemplate.failsOnly_ofTitle _ _ _ _
      · intro why hwhy
        exact (t.reports_siteFor title).refuses_bind fun site =>
          ScannedTemplate.refuses_ofTitle (Value.text?_titleText_of_unwritable hwhy) _ _ _
    | toCall hook verbose =>
      refine Or.inr ⟨_, _, _, result_attempted_of scannedCall _,
        converts_call rfl rfl (names_actionWith _ _ hook) (fun u hu => ?_) ?_ ?_⟩
      · obtain ⟨site, -, hof⟩ := Outcome.bind_eq_ok.mp hu
        exact ⟨_, _, _, hof⟩
      · exact fun s hs hseeds => (t.reports_siteFor hook).bind fun site _ =>
          ScannedCall.reports_ofHook (hseeds rfl) site _ hs
      · intro why hwhy
        exact (t.reports_siteFor hook).refuses_bind fun site =>
          ScannedCall.refuses_ofHook (Value.text?_of_unwritable hwhy) _ _ _
    | _ => exact h.elim
  | scannedTemplate t =>
    cases c with
    | toCall hook verbose =>
      refine Or.inr ⟨_, _, _, result_attempted_of scannedCall _,
        converts_call rfl rfl (names_actionWith _ _ hook) (fun u hu => ⟨_, _, _, hu⟩) ?_ ?_⟩
      · exact fun s hs hseeds => ScannedCall.reports_ofHook (hseeds rfl) _ _ hs
      · exact fun why hwhy => ScannedCall.refuses_ofHook (Value.text?_of_unwritable hwhy) _ _ _
    | _ => exact h.elim
  | scannedCall call =>
    cases c with
    | toTemplate title hierarchies verbose =>
      -- Without a title there may be none that the construct had as a template.
      by_cases hnull : call.askedTitle title = .null
      · refine Or.inl ⟨?_, _, congrArg Datum.shown hnull⟩
        simp only [converted, convert, toTemplate, ScannedCall.toTemplate, hnull, result_attempted, Attempt.result_failed]
        cases verbose <;> rfl
      · refine Or.inr ⟨_, _, _, converted_toTemplate_scannedCall hnull hierarchies verbose,
          converts_template rfl rfl (names_actionWith _ _ _) (fun u hu => ⟨_, _, _, hu⟩) ?_ ?_⟩
        · exact ScannedTemplate.failsOnly_ofTitle _ _ _ _
        · exact fun why hwhy => ScannedTemplate.refuses_ofTitle (Value.text?_of_unwritable hwhy) _ _ _
    | _ => exact h.elim
  | link l =>
    cases c with
    | toFileLink title verbose =>
      exact Or.inr ⟨_, _, _, result_attempted_of fileLink _, converts_fileLink rfl rfl (names_actionWith _ _ title) _ _⟩
    | _ => exact h.elim
  | fileLink l =>
    cases c with
    | toLink title verbose =>
      exact Or.inr ⟨_, _, _, result_attempted_of link _, converts_link rfl rfl (names_actionWith _ _ title) _ _⟩
    | _ => exact h.elim
  | rawLink l =>
    cases c with
    | toLink title verbose =>
      exact Or.inr ⟨_, _, _, result_attempted_of link _, converts_link rfl rfl (names_actionWith _ _ title) _ _⟩
    | toFileLink title verbose =>
      exact Or.inr ⟨_, _, _, result_attempted_of fileLink _, converts_fileLink rfl rfl (names_actionWith _ _ title) _ _⟩
    | _ => exact h.elim
  | scannedLink l =>
    cases c with
    | toFileLink title verbose =>
      exact Or.inr ⟨_, _, _, result_attempted_of scannedFileLink _,
        converts_scannedFileLink rfl rfl (names_actionWith _ _ title)⟩
    | _ => exact h.elim
  | scannedFileLink l =>
    cases c with
    | toLink title verbose =>
      exact Or.inr ⟨_, _, _, result_attempted_of scannedLink _,
        converts_scannedLink rfl rfl (names_actionWith _ _ title) fun s => l.record.sameLink_showing _ _ s⟩
    | _ => exact h.elim
  | scannedRawLink l =>
    cases c with
    | toLink title verbose =>
      exact Or.inr ⟨_, _, _, result_attempted_of scannedLink _,
        converts_scannedLink rfl rfl (names_actionWith _ _ title) fun s => l.record.sameLink_retitled s⟩
    | toFileLink title verbose =>
      exact Or.inr ⟨_, _, _, result_attempted_of scannedFileLink _,
        converts_scannedFileLink rfl rfl (names_actionWith _ _ title)⟩
    | _ => exact h.elim
  | template t | call c' => exact h.elim

/-- A value that cannot be written out fits no conversion, and cannot be named in the words for that failure. -/
theorem converted_unwritable {c : Conversion} (h : node.Offers c) {why : Unwritable}
    (hwhy : (node.named c).shown = .error why) : node.converted c = .error (.unwritable why) := by
  obtain ⟨-, s, hs⟩ | ⟨action, verbose, x, hx, hconverts⟩ := conversion_cases h
  · simp [hwhy] at hs
  · obtain ⟨fault, rfl, hreport⟩ := hconverts.refuses why hwhy
    rw [hx, Attempt.outcome_error_of_unwritable (hconverts.names.unwritable why hwhy) hreport]

/-- A conversion that a node can be asked for, with a value that can be written out, yields a node that is made anew, or
nothing, unless a key of the node's seeds is too long a numeral. -/
theorem converted_of_offers {c : Conversion} (h : node.Offers c) (hseeds : node.SeedsRead) {s : Text}
    (hs : (node.named c).shown = .ok s) :
    (∃ result, node.converted c = .ok result ∧ ∀ m, result = some m → m.Made ∧ node.SameConstruct m) ∨
      ∃ key, IsSeedKey node.seeds key ∧ isOverlongKey key = true ∧ node.converted c = .error (.noNumeral key) := by
  obtain ⟨hnone, -⟩ | ⟨action, verbose, x, hx, hconverts⟩ := conversion_cases h
  · exact Or.inl ⟨none, hnone, by simp⟩
  · cases x with
    | ok m =>
      refine Or.inl ⟨some m, hx, fun made hmade => ?_⟩
      obtain rfl := Option.some.inj hmade
      exact hconverts.made _ rfl
    | error fault =>
      obtain hreport | ⟨key, hkey, hoverlong, rfl⟩ := hconverts.fails s hs hseeds fault rfl
      · obtain ⟨words, hwords⟩ := hconverts.names.written s hs
        exact Or.inl ⟨none, by rw [hx, Attempt.outcome_error_of_isReported hwords hreport], by simp⟩
      · exact Or.inr ⟨key, hkey, hoverlong, hx⟩

/-! ### Seeds of templates -/

theorem exists_lead_of_ofSeedValues {seeds : List SeedValue} {chains : List (List Text)} {table : ParamTable}
    (h : ParamTable.ofSeedValues seeds chains = .ok table) : ∀ v ∈ seeds, ∃ s, v.lead = .ok s := by
  intro v hv
  obtain ⟨before, after, hstep⟩ := Outcome.exists_step_of_foldlM h hv
  obtain ⟨seed, hseed, -⟩ := Outcome.bind_eq_ok.mp hstep
  exact SeedValue.exists_lead hseed

/-- The seeds of a template were read when its record was, and are read again for its pristine copy. -/
theorem seedsRead_of_pristine (h : (∃ fresh, node.pristine = .ok fresh) ∨ ∃ kind, node.pristine = .error (.unsupported kind)) :
    node.SeedsRead := by
  intro htable v hv
  cases node with
  | template t => simp [seeds, braceRecord?] at hv
  | scannedTemplate t =>
    obtain ⟨fresh, hfresh⟩ | ⟨kind, hfault⟩ := h
    · obtain ⟨u, hu, -⟩ := Outcome.map_eq_ok.mp hfresh
      obtain ⟨title, -, hu⟩ := Outcome.bind_eq_ok.mp hu
      obtain ⟨chains, -, hu⟩ := Outcome.bind_eq_ok.mp hu
      obtain ⟨params, hparams, -⟩ := Outcome.bind_eq_ok.mp hu
      exact exists_lead_of_ofSeedValues hparams v hv
    · obtain ⟨hreport, -⟩ | ⟨key, -, -, hkey⟩ :=
        ScannedTemplate.failsOnly_ofRecord _ _ _ _ (Outcome.map_eq_error.mp hfault)
      · simp [Fault.isReportable] at hreport
      · simp at hkey
  | rawTemplate t =>
    obtain ⟨fresh, hfresh⟩ | ⟨kind, hfault⟩ := h
    · obtain ⟨u, hu, -⟩ := Outcome.map_eq_ok.mp hfresh
      obtain ⟨chains, -, hu⟩ := Outcome.bind_eq_ok.mp hu
      obtain ⟨params, hparams, -⟩ := Outcome.bind_eq_ok.mp hu
      exact exists_lead_of_ofSeedValues hparams v hv
    · obtain ⟨hreport, -⟩ | ⟨key, -, -, hkey⟩ :=
        RawTemplate.failsOnly_ofRecord _ _ _ _ (Outcome.map_eq_error.mp hfault)
      · simp [Fault.isReportable] at hreport
      · simp at hkey
  | _ => simp [table?] at htable

theorem seedsRead_run (h : node.Made) (edits : List Edit) : (node.run edits).SeedsRead := by
  refine seedsRead_of_pristine ?_
  rw [pristine_run]
  cases h with
  | found hbuild => exact Or.inl ⟨_, pristine_of_build hbuild⟩
  | _ => exact Or.inr ⟨_, rfl⟩

/-- A node that was made and edited has a title that fits, if it has one. Given a title or a hook, of whatever form, it
has that one afterwards, and nothing else is changed, or it is as it was. Whatever it is converted to, with whatever
arguments, comes to a node that is made anew, with a title that fits and of the same construct, or to nothing; only a key
that is too long a numeral may keep it from that. All this holds of values that can be written out, as hooks of calls need
not be; any other is a fault, which leaves the node as it was. -/
theorem attempts_of_made {node edited : Node} (h : node.Made) {edits : List Edit} (hedited : node.run edits = edited) :
    edited.TitleFits ∧
    (edited.title?.isSome = true → ∀ v verbose,
      (∀ why, v.shown = .error why →
        edited.changed? (.title v verbose) = .error (.unwritable why) ∧ edited.after (.title v verbose) = edited) ∧
      ∀ s, v.shown = .ok s →
        (edited.changed? (.title v verbose) = .ok none ∧ edited.after (.title v verbose) = edited) ∨
          ∃ t, edited.changed? (.title v verbose) = .ok (some (edited.withTitle t)) ∧
            edited.after (.title v verbose) = edited.withTitle t ∧ (edited.withTitle t).TitleFits) ∧
    (edited.call?.isSome = true → ∀ v,
      (edited.changed? (.hook v) = .ok none ∧ edited.after (.hook v) = edited) ∨
        ∃ verified, edited.changed? (.hook v) = .ok (some (edited.withHook verified)) ∧
          edited.after (.hook v) = edited.withHook verified) ∧
    ∀ c, edited.Offers c →
      (∀ why, (edited.named c).shown = .error why → edited.converted c = .error (.unwritable why)) ∧
      ∀ s, (edited.named c).shown = .ok s →
        (∃ result, edited.converted c = .ok result ∧
          ∀ m, result = some m → m.Made ∧ m.TitleFits ∧ edited.SameConstruct m) ∨
        ∃ key, IsSeedKey edited.seeds key ∧ isOverlongKey key = true ∧ edited.converted c = .error (.noNumeral key) := by
  subst hedited
  refine ⟨titleFits_run h edits, fun htitle v verbose => ⟨fun why hwhy => ?_, fun s hs => ?_⟩, fun hcall v => ?_,
    fun c hc => ⟨fun why hwhy => converted_unwritable hc hwhy, fun s hs => ?_⟩⟩
  · have hfault := changed?_title_unwritable htitle hwhy verbose
    exact ⟨hfault, by rw [after, hfault]⟩
  · refine (title_cases htitle hs verbose).imp_right ?_
    rintro ⟨t, hfit, hchanged, hafter⟩
    exact ⟨t, hchanged, hafter, titleFits_withTitle hfit⟩
  · obtain ⟨call, hcall⟩ := Option.isSome_iff_exists.mp hcall
    refine (hook_cases hcall v).imp_right ?_
    rintro ⟨verified, -, hchanged, hafter⟩
    exact ⟨verified, hchanged, hafter⟩
  · refine (converted_of_offers hc (seedsRead_run h edits) hs).imp_left ?_
    rintro ⟨result, hresult, hmade⟩
    refine ⟨result, hresult, fun m hm => ?_⟩
    obtain ⟨hm, hsame⟩ := hmade m hm
    exact ⟨hm, hm.titleAccepted.titleFits, hsame⟩

/-- A link that embeds a file is not given the title of a page, but can be made a link to that page. -/
theorem attempts_of_captionedFile :
    ∃ node edited m, (Source.fileLink (some .small) captionedFile).build = .ok node ∧
      node.run [.slots (.add (.text "x".toList))] = edited ∧ edited.TitleFits ∧
      edited.changed? (.title (.text "Bar".toList) false) = .ok none ∧
      edited.after (.title (.text "Bar".toList) false) = edited ∧
      edited.converted (.toLink (.text "Bar".toList) false) = .ok (some m) ∧
      m.render = .ok "[[Bar|thumb|cap|x]]".toList ∧ m.TitleFits ∧ edited.SameConstruct m := by
  obtain ⟨l, edited, m, hbuild, hedited, hnone, hm, hrender⟩ : ∃ l edited m,
      (Source.fileLink (some .small) captionedFile).build = .ok (scannedFileLink l) ∧
      (scannedFileLink l).run [.slots (.add (.text "x".toList))] = scannedFileLink edited ∧
      (scannedFileLink edited).changed? (.title (.text "Bar".toList) false) = .ok none ∧
      (scannedFileLink edited).converted (.toLink (.text "Bar".toList) false) = .ok (some m) ∧
      m.render = .ok "[[Bar|thumb|cap|x]]".toList := ⟨_, _, _, rfl, rfl, rfl, rfl, rfl⟩
  obtain ⟨hfits, htitle, -, hconverts⟩ := attempts_of_made (.found hbuild) hedited
  refine ⟨_, _, m, hbuild, hedited, hfits, hnone, ?_, hm, hrender, ?_⟩
  · obtain ⟨-, hafter⟩ | ⟨t, hsome, -⟩ := (htitle rfl (.text "Bar".toList) false).2 _ rfl
    · exact hafter
    · exact absurd (hnone.symm.trans hsome) (by simp)
  · obtain ⟨result, hresult, hmade⟩ | ⟨key, -, -, hfault⟩ :=
      (hconverts (.toLink (.text "Bar".toList) false) trivial).2 _ rfl
    · exact (hmade m (Except.ok.inj (hresult.symm.trans hm))).2
    · exact absurd (hm.symm.trans hfault) (by simp)

/-- The title `#frag`, with a list for its namespace. -/
def listedTitle : UnplacedTitle where
  site := .small
  place := .list [.int 1]
  fragment := "frag".toList
  kind := "list".toList
  unhashable := rfl

/-- A title that was given a list for its namespace, and an integer with one digit too many, are no titles of links. Each
of them is a fault that a new title and a conversion do not report, but fail with. -/
theorem changed?_listedTitle :
    Title.ofValueIn (some .small) (.text "#frag".toList) (.list [.int 1]) = .ok (.leaf (.unplaced listedTitle)) ∧
    ∃ l, PageLink.create (some .small) (.text "Foo".toList) = .ok l ∧
      (link l).changed? (.title (.leaf (.unplaced listedTitle)) false) =
        .error (.unwritable (.notHashable "list".toList)) ∧
      (link l).converted (.toFileLink (.leaf (.unplaced listedTitle)) false) =
        .error (.unwritable (.notHashable "list".toList)) ∧
      (link l).changed? (.title (.int (Nat.pow 10 Text.maxNumeralDigits)) false) = .error (.unwritable .tooManyDigits) ∧
      (link l).converted (.toFileLink (.int (Nat.pow 10 Text.maxNumeralDigits)) false) =
        .error (.unwritable .tooManyDigits) := by
  have hint : Datum.shown (.int (Nat.pow 10 Text.maxNumeralDigits) : Value) = .error .tooManyDigits :=
    Datum.shownInt_eq_error (Nat.le_of_eq (Int.natAbs_natCast _).symm)
  obtain ⟨l, hl⟩ : ∃ l, PageLink.create (some .small) (.text "Foo".toList) = .ok l := ⟨_, rfl⟩
  have hoffers : ∀ v, (link l).Offers (.toFileLink v false) := fun _ => trivial
  exact ⟨rfl, l, hl, changed?_title_unwritable rfl rfl false, converted_unwritable (hoffers _) rfl,
    changed?_title_unwritable rfl hint false, converted_unwritable (hoffers _) hint⟩

end Node

end PageMarkup
