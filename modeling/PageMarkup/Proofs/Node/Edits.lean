import PageMarkup.Node
import PageMarkup.Proofs.Param.Edits
import PageMarkup.Proofs.RawTitle
import PageMarkup.Proofs.Slots.Stepwise
import PageMarkup.Proofs.Title.Acceptance

/-!
# Edits of nodes

A node that was found is made of a record on a site, with chains for the table of a template (`Node.Source`). Callers
change its title, its hook, its display and its parameters, but neither record nor site nor chains: however a node was
edited, its pristine copy is the node as it was made (`Node.pristine_run`).
-/
namespace PageMarkup

namespace Attempt

variable {α : Type} {action : Except Unwritable Text} {node : Text} {verbose : Bool}

/-- What it takes to put a failed attempt into words: its action, and the fault if a report is asked for. -/
def wording (action : Except Unwritable Text) (verbose : Bool) (fault : Fault) : Except Unwritable Unit :=
  match action with
  | .error why => .error why
  | .ok _ => if verbose then (fun _ => ()) <$> fault.message else .ok ()

/-- What the attempt at an operation comes to: what the operation yields, or nothing if the failure can be put into words.
Other faults are passed on. -/
def outcome (action : Except Unwritable Text) (verbose : Bool) (x : Except Fault α) : Except Fault (Option α) :=
  match x with
  | .ok a => .ok (some a)
  | .error fault =>
    if fault.isReportable then
      match wording action verbose fault with
      | .ok _ => .ok none
      | .error why => .error (.unwritable why)
    else .error fault

theorem result_failed (fault : Fault) :
    Attempt.result <$> (failed action node verbose fault : Except Fault (Attempt α)) =
      match wording action verbose fault with
      | .ok _ => .ok none
      | .error why => .error (.unwritable why) := by
  cases action with
  | error why => rfl
  | ok words =>
    cases verbose with
    | false => rfl
    | true =>
      simp only [failed, wording, reportOf]
      cases fault.message <;> rfl

theorem result_of (x : Except Fault α) :
    Attempt.result <$> Attempt.of action node verbose x = outcome action verbose x := by
  cases x with
  | ok a => rfl
  | error fault =>
    cases hreport : fault.isReportable with
    | true => simpa only [Attempt.of, outcome, hreport, if_true] using result_failed fault
    | false => simp [Attempt.of, outcome, hreport, Functor.map, Except.map]

theorem eq_ok_of_outcome {x : Except Fault α} {a : α} (h : outcome action verbose x = .ok (some a)) : x = .ok a := by
  cases x with
  | ok b => rw [Option.some.inj (Except.ok.inj h)]
  | error fault =>
    cases hreport : fault.isReportable with
    | true => cases hwording : wording action verbose fault <;> simp [outcome, hreport, hwording] at h
    | false => simp [outcome, hreport] at h

theorem eq_ok_of_result {x : Except Fault α} {a : α}
    (h : Attempt.result <$> Attempt.of action node verbose x = .ok (some a)) : x = .ok a :=
  eq_ok_of_outcome ((result_of x).symm.trans h)

/-- What is made of an attempt comes to what is made of its result. -/
theorem result_bind_map {β : Type} (f : α → β) (x : Except Fault (Attempt α)) :
    Attempt.result <$> (x >>= fun attempt => pure ⟨attempt.result.map f, attempt.report⟩) =
      Option.map f <$> (Attempt.result <$> x) := by
  cases x <;> rfl

theorem map_result_eq_some {β : Type} {f : α → β} {x : Except Fault (Option α)} {b : β} :
    Option.map f <$> x = .ok (some b) ↔ ∃ a, x = .ok (some a) ∧ f a = b := by
  rw [Outcome.map_eq_ok]
  constructor
  · rintro ⟨result, hx, hresult⟩
    obtain ⟨a, rfl, ha⟩ := Option.map_eq_some_iff.mp hresult
    exact ⟨a, hx, ha⟩
  · rintro ⟨a, hx, rfl⟩
    exact ⟨some a, hx, rfl⟩

/-- A result that is made of that of an attempt at an operation is made of what the operation yields. -/
theorem exists_of_result_bind_map {β : Type} {f : α → β} {x : Except Fault α} {b : β}
    (h : Attempt.result <$> (Attempt.of action node verbose x >>= fun attempt =>
      pure ⟨attempt.result.map f, attempt.report⟩) = .ok (some b)) : ∃ a, x = .ok a ∧ f a = b := by
  rw [result_bind_map, result_of] at h
  obtain ⟨a, ha, hb⟩ := map_result_eq_some.mp h
  exact ⟨a, eq_ok_of_outcome ha, hb⟩

end Attempt

namespace Node

/-- A change that a caller makes to a node. -/
inductive Edit where
  | params (edit : ParamTable.Edit)
  | slots (edit : Slots.Edit)
  | title (title : Value) (verbose : Bool)
  | hook (hook : Value)
  | display (display : Value)

/-- The node that a change yields, if the node has what is to be changed. -/
def changed? (node : Node) : Edit → Except Fault (Option Node)
  | .params edit => .ok (node.table?.map fun table => node.withTable (table.after edit))
  | .slots edit => .ok (node.slots?.map fun slots => node.withSlots (slots.after edit))
  | .title title verbose => Attempt.result <$> node.setTitle title verbose
  | .hook hook => node.setHook? hook
  | .display display => some <$> node.setDisplay display

/-- The node after a change, which is the node before if the change is refused. -/
def after (node : Node) (edit : Edit) : Node :=
  match node.changed? edit with
  | .ok (some changed) => changed
  | _ => node

/-- The node after changes one after the other. -/
def run (node : Node) (edits : List Edit) : Node := edits.foldl after node

/-- What every edit keeps is kept by any number of edits. -/
theorem run_induction {P : Node → Prop} (hafter : ∀ node edit, P node → P (node.after edit)) {node : Node} (h : P node)
    (edits : List Edit) : P (node.run edits) := by
  induction edits generalizing node with
  | nil => exact h
  | cons edit rest ih => exact ih (hafter node edit h)

/-- What a node that was found is made of. -/
inductive Source where
  | template (site : Option Site) (record : BraceRecord) (hierarchies : Value)
  | rawTemplate (site : Option Site) (record : BraceRecord) (hierarchies : Value)
  | call (site : Option Site) (record : BraceRecord)
  | link (site : Option Site) (record : LinkRecord)
  | fileLink (site : Option Site) (record : LinkRecord)
  | rawLink (site : Option Site) (record : LinkRecord)

def Source.build : Source → Except Fault Node
  | template site record hierarchies => scannedTemplate <$> ScannedTemplate.ofRecord site record hierarchies
  | rawTemplate site record hierarchies => Node.rawTemplate <$> RawTemplate.ofRecord site record hierarchies
  | call site record => scannedCall <$> ScannedCall.ofRecord site record
  | link site record => scannedLink <$> ScannedLink.ofRecord site record
  | fileLink site record => scannedFileLink <$> ScannedFileLink.ofRecord site record
  | rawLink site record => .ok (scannedRawLink (ScannedRawLink.ofRecord site record))

end Node

/-! ## What is made of a record -/

open ParamTable (readChains chainsValue)

section

variable {site : Option Site} {hierarchies other : Value}

theorem ParamTable.chains_ofSeedValues {seeds : List SeedValue} {chains : List (List Text)} {table : ParamTable}
    (h : ofSeedValues seeds chains = .ok table) : table.chains = chains :=
  (reached_ofSeedValues h).chains_eq

/-- A template keeps its record, its site and its chains. -/
theorem ScannedTemplate.ofRecord_eq_ok {record : BraceRecord} {t : ScannedTemplate}
    (h : ofRecord site record hierarchies = .ok t) :
    site = some t.title.site ∧ t.record = record ∧ readChains hierarchies = .ok t.params.chains := by
  obtain ⟨title, htitle, h⟩ := Outcome.bind_eq_ok.mp h
  obtain ⟨chains, hchains, h⟩ := Outcome.bind_eq_ok.mp h
  obtain ⟨table, htable, h⟩ := Outcome.bind_eq_ok.mp h
  obtain rfl := Except.ok.inj h
  exact ⟨Title.site_of_transcluded_text htitle, rfl, by rw [hchains, ParamTable.chains_ofSeedValues htable]⟩

theorem ScannedTemplate.ofRecord_congr (site : Option Site) (record : BraceRecord)
    (h : readChains hierarchies = readChains other) :
    ofRecord site record hierarchies = ofRecord site record other := by
  simp only [ofRecord, h]

theorem RawTemplate.ofRecord_eq_ok {record : BraceRecord} {t : RawTemplate}
    (h : ofRecord site record hierarchies = .ok t) :
    t.site = site ∧ t.record = record ∧ readChains hierarchies = .ok t.params.chains := by
  obtain ⟨chains, hchains, h⟩ := Outcome.bind_eq_ok.mp h
  obtain ⟨table, htable, h⟩ := Outcome.bind_eq_ok.mp h
  obtain rfl := Except.ok.inj h
  exact ⟨rfl, rfl, by rw [hchains, ParamTable.chains_ofSeedValues htable]⟩

theorem RawTemplate.ofRecord_congr (site : Option Site) (record : BraceRecord)
    (h : readChains hierarchies = readChains other) :
    ofRecord site record hierarchies = ofRecord site record other := by
  simp only [ofRecord, h]

theorem ScannedCall.ofRecord_eq_ok {record : BraceRecord} {call : ScannedCall} (h : ofRecord site record = .ok call) :
    site = some call.site ∧ call.record = record := by
  obtain ⟨known, verified, split, values, params, rfl, -, -, -, -, rfl⟩ := exists_of_ofRecord_eq_ok h
  exact ⟨rfl, rfl⟩

theorem ScannedLink.ofRecord_eq_ok {record : LinkRecord} {link : ScannedLink} (h : ofRecord site record = .ok link) :
    site = some link.title.site ∧ link.record = record := by
  obtain ⟨title, htitle, h⟩ := Outcome.bind_eq_ok.mp h
  obtain rfl := Except.ok.inj h
  exact ⟨Title.site_of_linked_text (Title.linked_of_targeted htitle), rfl⟩

theorem ScannedFileLink.ofRecord_eq_ok {record : LinkRecord} {link : ScannedFileLink}
    (h : ofRecord site record = .ok link) : site = some link.title.site ∧ link.record = record := by
  obtain ⟨title, htitle, h⟩ := Outcome.bind_eq_ok.mp h
  obtain rfl := Except.ok.inj h
  exact ⟨Title.site_of_linked_text (Title.linked_of_embedded htitle), rfl⟩

end

/-! ## New titles and hooks -/

section

variable {title : Value} {verbose : Bool}

theorem ScannedTemplate.pristine_of_setTitle {t changed : ScannedTemplate}
    (h : Attempt.result <$> t.setTitle title verbose = .ok (some changed)) : changed.pristine = t.pristine := by
  obtain ⟨u, hu, rfl⟩ := Attempt.exists_of_result_bind_map h
  obtain ⟨read, hread, hpure⟩ := Outcome.bind_eq_ok.mp hu
  obtain rfl := Except.ok.inj hpure
  have hsite : read.site = t.title.site := Title.site_of_transcluded hread
  simp only [pristine, hsite]

theorem ScannedLink.pristine_of_setTitle {link changed : ScannedLink}
    (h : Attempt.result <$> link.setTitle title verbose = .ok (some changed)) : changed.pristine = link.pristine := by
  obtain ⟨u, hu, rfl⟩ := Attempt.exists_of_result_bind_map h
  obtain ⟨read, hread, hpure⟩ := Outcome.bind_eq_ok.mp hu
  obtain rfl := Except.ok.inj hpure
  have hsite : read.site = link.title.site := Title.site_of_linked (Title.linked_of_targeted hread)
  simp only [pristine, hsite]

theorem ScannedFileLink.pristine_of_setTitle {link changed : ScannedFileLink}
    (h : Attempt.result <$> link.setTitle title verbose = .ok (some changed)) : changed.pristine = link.pristine := by
  obtain ⟨u, hu, rfl⟩ := Attempt.exists_of_result_bind_map h
  obtain ⟨read, hread, hpure⟩ := Outcome.bind_eq_ok.mp hu
  obtain rfl := Except.ok.inj hpure
  have hsite : read.site = link.title.site := Title.site_of_linked (Title.linked_of_embedded hread)
  simp only [pristine, hsite]

theorem ScannedCall.pristine_of_setHook? {call changed : ScannedCall} {hook : Value}
    (h : call.setHook? hook = some changed) : changed.pristine = call.pristine := by
  obtain ⟨u, hu, rfl⟩ := Option.map_eq_some_iff.mp h
  obtain ⟨verified, -, rfl⟩ := Option.map_eq_some_iff.mp hu
  rfl

end

namespace Node

theorem result_attempted {α : Type} (make : α → Node) (x : Except Fault (Attempt α)) :
    Attempt.result <$> attempted make x = Option.map make <$> (Attempt.result <$> x) :=
  Attempt.result_bind_map make x

/-- A node that an attempt yields is made of what another attempt yields. -/
theorem exists_of_attempted {α : Type} {make : α → Node} {x : Except Fault (Attempt α)} {node : Node}
    (h : Attempt.result <$> attempted make x = .ok (some node)) :
    ∃ a, Attempt.result <$> x = .ok (some a) ∧ make a = node :=
  Attempt.map_result_eq_some.mp ((result_attempted make x).symm.trans h)

/-- A node that was just made is its own pristine copy. -/
theorem pristine_of_build {source : Source} {node : Node} (h : source.build = .ok node) : node.pristine = .ok node := by
  cases source with
  | template site record hierarchies =>
    obtain ⟨t, ht, rfl⟩ := Outcome.map_eq_ok.mp h
    obtain ⟨hsite, hrecord, hchains⟩ := ScannedTemplate.ofRecord_eq_ok ht
    refine Outcome.map_eq_ok.mpr ⟨t, ?_, rfl⟩
    rw [ScannedTemplate.pristine, hrecord, ← ht, hsite]
    exact ScannedTemplate.ofRecord_congr _ _ (by
      rw [hchains, ParamTable.readChains_chainsValue (ParamTable.trimmedChains_readChains hchains)])
  | rawTemplate site record hierarchies =>
    obtain ⟨t, ht, rfl⟩ := Outcome.map_eq_ok.mp h
    obtain ⟨hsite, hrecord, hchains⟩ := RawTemplate.ofRecord_eq_ok ht
    refine Outcome.map_eq_ok.mpr ⟨t, ?_, rfl⟩
    rw [RawTemplate.pristine, hrecord, ← ht, hsite]
    exact RawTemplate.ofRecord_congr _ _ (by
      rw [hchains, ParamTable.readChains_chainsValue (ParamTable.trimmedChains_readChains hchains)])
  | call site record =>
    obtain ⟨call, hcall, rfl⟩ := Outcome.map_eq_ok.mp h
    obtain ⟨hsite, hrecord⟩ := ScannedCall.ofRecord_eq_ok hcall
    exact Outcome.map_eq_ok.mpr ⟨call, by rw [ScannedCall.pristine, hrecord, ← hsite, hcall], rfl⟩
  | link site record =>
    obtain ⟨link, hlink, rfl⟩ := Outcome.map_eq_ok.mp h
    obtain ⟨hsite, hrecord⟩ := ScannedLink.ofRecord_eq_ok hlink
    exact Outcome.map_eq_ok.mpr ⟨link, by rw [ScannedLink.pristine, hrecord, ← hsite, hlink], rfl⟩
  | fileLink site record =>
    obtain ⟨link, hlink, rfl⟩ := Outcome.map_eq_ok.mp h
    obtain ⟨hsite, hrecord⟩ := ScannedFileLink.ofRecord_eq_ok hlink
    exact Outcome.map_eq_ok.mpr ⟨link, by rw [ScannedFileLink.pristine, hrecord, ← hsite, hlink], rfl⟩
  | rawLink site record =>
    obtain rfl := Except.ok.inj h
    rfl

/-! ## One edit -/

/-- A call leaves the chains of a table, as far as they are read again. -/
theorem readChains_after (table : ParamTable) (edit : ParamTable.Edit) :
    readChains (chainsValue (table.after edit).chains) = readChains (chainsValue table.chains) := by
  unfold ParamTable.after
  split
  · rename_i answer u hcall
    cases edit with
    | insert key value overwrite position =>
      obtain ⟨k, v, place, -, -, -, hresult⟩ := ParamTable.insert_eq_ok hcall
      have hchains : u.chains = (table.register _).2.chains := congrArg (·.2.chains) hresult
      rw [hchains, ParamTable.chains_register]
    | update key value =>
      obtain ⟨k, v, -, -, hresult⟩ := ParamTable.update_eq_ok hcall
      have hchains : u.chains = (table.register _).2.chains := congrArg (·.2.chains) hresult
      rw [hchains, ParamTable.chains_register]
    | delete key resolved =>
      obtain ⟨k, -, hresult⟩ := ParamTable.delete_eq_ok hcall
      generalize (if resolved = true then table.resolve k else k) = erased at hresult
      have hchains : u.chains = table.chains := by
        split at hresult <;> exact congrArg (·.2.chains) hresult
      rw [hchains]
    | copy =>
      -- The copy reads the chains again, and what was read is read as it is.
      obtain ⟨v, hcopy, hv⟩ := Outcome.map_eq_ok.mp hcall
      obtain rfl : v = u := congrArg Prod.snd hv
      obtain ⟨chains, hchains, hpure⟩ := Outcome.bind_eq_ok.mp hcopy
      obtain rfl := Except.ok.inj hpure
      rw [hchains]
      exact ParamTable.readChains_chainsValue (ParamTable.trimmedChains_readChains hchains)
  · rfl

theorem pristine_withTable {node : Node} {table changed : ParamTable} (htable : node.table? = some table)
    (h : readChains (chainsValue changed.chains) = readChains (chainsValue table.chains)) :
    (node.withTable changed).pristine = node.pristine := by
  cases node with
  | scannedTemplate t =>
    obtain rfl := Option.some.inj htable
    exact congrArg (scannedTemplate <$> ·) (ScannedTemplate.ofRecord_congr _ _ h)
  | rawTemplate t =>
    obtain rfl := Option.some.inj htable
    exact congrArg (rawTemplate <$> ·) (RawTemplate.ofRecord_congr _ _ h)
  | _ => rfl

theorem pristine_withSlots (node : Node) (slots : Slots) : (node.withSlots slots).pristine = node.pristine := by
  cases node <;> rfl

theorem pristine_of_setTitle {node changed : Node} {title : Value} {verbose : Bool}
    (h : Attempt.result <$> node.setTitle title verbose = .ok (some changed)) : changed.pristine = node.pristine := by
  cases node with
  | template t | link l | fileLink l =>
    obtain ⟨u, -, rfl⟩ := exists_of_attempted h
    rfl
  | scannedTemplate t =>
    obtain ⟨u, hu, rfl⟩ := exists_of_attempted h
    exact congrArg (scannedTemplate <$> ·) (ScannedTemplate.pristine_of_setTitle hu)
  | scannedLink l =>
    obtain ⟨u, hu, rfl⟩ := exists_of_attempted h
    exact congrArg (scannedLink <$> ·) (ScannedLink.pristine_of_setTitle hu)
  | scannedFileLink l =>
    obtain ⟨u, hu, rfl⟩ := exists_of_attempted h
    exact congrArg (scannedFileLink <$> ·) (ScannedFileLink.pristine_of_setTitle hu)
  | rawTemplate t =>
    obtain ⟨attempt, hattempt, hresult⟩ := Outcome.map_eq_ok.mp h
    obtain ⟨u, hu, hpure⟩ := Outcome.bind_eq_ok.mp hattempt
    obtain rfl := Except.ok.inj hpure
    obtain rfl := Option.some.inj hresult
    cases title with
    | text s =>
      obtain rfl := Except.ok.inj hu
      rfl
    | _ => simp [RawTemplate.setTitle] at hu
  | rawLink l | scannedRawLink l =>
    obtain ⟨attempt, hattempt, hresult⟩ := Outcome.map_eq_ok.mp h
    obtain ⟨u, hu, hpure⟩ := Outcome.bind_eq_ok.mp hattempt
    obtain rfl := Except.ok.inj hpure
    obtain rfl := Option.some.inj hresult
    obtain ⟨s, -, hs⟩ := Outcome.bind_eq_ok.mp hu
    obtain rfl := Except.ok.inj hs
    rfl
  | call c | scannedCall c => simp [setTitle, Functor.map, Except.map] at h

theorem pristine_of_setHook? {node changed : Node} {hook : Value} (h : node.setHook? hook = .ok (some changed)) :
    changed.pristine = node.pristine := by
  cases node with
  | call c =>
    obtain ⟨u, -, rfl⟩ := Option.map_eq_some_iff.mp (Except.ok.inj h)
    rfl
  | scannedCall c =>
    obtain ⟨u, hu, rfl⟩ := Option.map_eq_some_iff.mp (Except.ok.inj h)
    exact congrArg (scannedCall <$> ·) (ScannedCall.pristine_of_setHook? hu)
  | _ => simp [setHook?] at h

theorem pristine_of_setDisplay {node changed : Node} {display : Value} (h : node.setDisplay display = .ok changed) :
    changed.pristine = node.pristine := by
  cases node with
  | link l | scannedLink l | rawLink l | scannedRawLink l =>
    obtain ⟨u, hu, rfl⟩ := Outcome.map_eq_ok.mp h
    obtain ⟨shown, -, hpure⟩ := Outcome.bind_eq_ok.mp hu
    obtain rfl := Except.ok.inj hpure
    rfl
  | _ => simp [setDisplay] at h

/-- An edit leaves what a node is made of. -/
theorem pristine_after (node : Node) (edit : Edit) : (node.after edit).pristine = node.pristine := by
  unfold after
  split
  · rename_i changed hchanged
    cases edit with
    | params edit =>
      obtain ⟨table, htable, rfl⟩ := Option.map_eq_some_iff.mp (Except.ok.inj hchanged)
      exact pristine_withTable htable (readChains_after table edit)
    | slots edit =>
      obtain ⟨slots, -, rfl⟩ := Option.map_eq_some_iff.mp (Except.ok.inj hchanged)
      exact pristine_withSlots node _
    | title title verbose => exact pristine_of_setTitle hchanged
    | hook hook => exact pristine_of_setHook? hchanged
    | display display =>
      obtain ⟨u, hu, hsome⟩ := Outcome.map_eq_ok.mp hchanged
      obtain rfl := Option.some.inj hsome
      exact pristine_of_setDisplay hu
  · rfl

/-- However a node was edited, its pristine copy is that of the node before. -/
theorem pristine_run (node : Node) (edits : List Edit) : (node.run edits).pristine = node.pristine := by
  refine run_induction (P := fun edited => edited.pristine = node.pristine) ?_ rfl edits
  intro edited edit h
  exact (edited.pristine_after edit).trans h

theorem pristine_run_of_build {source : Source} {node : Node} (h : source.build = .ok node) (edits : List Edit) :
    (node.run edits).pristine = .ok node :=
  (node.pristine_run edits).trans (pristine_of_build h)

end Node

end PageMarkup
