import PageMarkup.Node
import PageMarkup.Proofs.Param.Seeds
import PageMarkup.Proofs.Title.Check

/-!
# Faults that are reported

An attempt reports faults of markup and of the form of an argument, and passes others on. What an attempt is made of,
whatever values it is given, has faults of the reported kinds only, and they have a message (`Reports`): titles in their
places, displays, positional parameters, hooks and their records, and hierarchies. The table of a template is the one
exception. It may look for a free number beside a key that is too long a numeral (`ScannedTemplate.failsOnly_ofRecord`).
-/
namespace PageMarkup

/-- Whether attempts report the fault, and can do so. -/
def Fault.IsReported (fault : Fault) : Prop := fault.isReportable = true ∧ ∃ s, fault.message = .ok s

/-- Whether every fault of the operation is one that attempts report. -/
def Reports {α : Type} (x : Except Fault α) : Prop := Outcome.FailsOnly Fault.IsReported x

theorem reports_ok {α : Type} (a : α) : Reports (.ok a) := Outcome.failsOnly_ok a

theorem reports_error {α : Type} {fault : Fault} {s : Text} (h : fault.isReportable = true)
    (hmessage : fault.message = .ok s) : Reports (.error fault : Except Fault α) :=
  Outcome.failsOnly_error ⟨h, s, hmessage⟩

theorem Fault.exists_message_misplacedTitle {v : Value} {s : Text} (h : v.shown = .ok s) (problem : Misplacement) :
    ∃ t, (misplacedTitle v problem).message = .ok t := by
  rw [message, h]
  exact ⟨_, rfl⟩

theorem Fault.exists_message_invalidHook {v : Value} {s : Text} (h : v.shown = .ok s) :
    ∃ t, (invalidHook v).message = .ok t := by
  rw [message, h]
  exact ⟨_, rfl⟩

theorem Fault.isReported_ofNoTitle (v : Value) : (ofNoTitle v).IsReported := by
  unfold ofNoTitle
  split
  · exact ⟨rfl, _, rfl⟩
  · exact ⟨rfl, _, rfl⟩

/-! ## Values -/

theorem reports_expectText (role : Text) (v : Value) : Reports (v.expectText role) := by
  unfold Value.expectText
  split
  · exact reports_ok _
  · exact reports_error rfl rfl

theorem reports_expectItems (v : Value) : Reports v.expectItems := by
  unfold Value.expectItems
  split
  · exact reports_ok _
  · exact reports_error rfl rfl

theorem reports_expectDisplay (v : Value) : Reports (expectDisplay v) := by
  unfold expectDisplay
  split
  · exact reports_ok _
  · exact reports_ok _
  · exact reports_error rfl rfl

theorem Slots.reports_ofValue (v : Value) : Reports (ofValue v) := by
  refine (reports_expectItems v).bind fun items _ => ?_
  refine Outcome.failsOnly_foldlM (fun s value => ?_) items empty
  exact (reports_expectText _ value).bind fun s _ => reports_ok _

theorem ParamTable.reports_readChains (hierarchies : Value) : Reports (readChains hierarchies) := by
  unfold readChains
  split
  · refine (reports_expectItems _).bind fun chains _ => Outcome.failsOnly_mapM fun chain _ => ?_
    split
    · exact reports_error rfl rfl
    · refine (reports_expectItems _).bind fun keys _ => Outcome.failsOnly_mapM fun key _ => ?_
      exact (reports_expectText _ key).map _
  · exact reports_ok _

theorem SeedValue.reports_toSeed (v : SeedValue) : Reports v.toSeed := by
  unfold toSeed
  split
  · refine ((reports_expectText _ _).map some).bind fun key _ => ?_
    exact (reports_expectText _ _).bind fun value _ => reports_ok _
  · exact (reports_ok _).bind fun key _ => (reports_expectText _ _).bind fun value _ => reports_ok _

theorem SeedValue.exists_lead {v : SeedValue} {seed : Seed} (h : v.toSeed = .ok seed) : ∃ s, v.lead = .ok s := by
  unfold lead
  split
  · rename_i htruthy
    rw [toSeed, if_pos htruthy] at h
    obtain ⟨key, hkey, -⟩ := Outcome.bind_eq_ok.mp h
    obtain ⟨s, hs, -⟩ := Outcome.map_eq_ok.mp hkey
    cases hv : v.key with
    | text s => exact ⟨_, rfl⟩
    | _ => simp [hv, Value.expectText] at hs
  · exact ⟨_, rfl⟩

theorem SeedValue.reports_positional {v : SeedValue} {s : Text} (h : v.lead = .ok s) : Reports v.positional := by
  unfold positional
  split
  · exact reports_ok _
  · exact reports_ok _
  · rw [h]
    refine Outcome.FailsOnly.bind (reports_ok s) fun lead _ => ?_
    split
    · exact reports_ok _
    · exact reports_error rfl rfl
  · exact reports_error rfl rfl
  · exact reports_error rfl rfl

theorem HookSplit.reports_ofOrigin (o : Origin) (hook : Text) : Reports (ofOrigin o hook) := by
  unfold ofOrigin
  split
  · exact reports_ok _
  · split
    · exact reports_error rfl rfl
    · exact reports_ok _

/-! ## Titles -/

namespace Title

theorem reports_read (site : Site) (given : Text) (fallback : Int) : Reports (read site given fallback) := by
  obtain ⟨flaw, h⟩ | ⟨title, h, -⟩ := read_cases site given fallback
  · rw [h]
    exact reports_error rfl rfl
  · rw [h]
    exact reports_ok _

theorem reports_ofValue (site : Option Site) (v : Value) (fallback : Option Int) : Reports (ofValue site v fallback) := by
  unfold ofValue
  split
  · exact reports_read _ _ _
  · split
    · exact reports_read _ _ _
    · exact reports_error rfl rfl
  · exact Outcome.failsOnly_error (Fault.isReported_ofNoTitle v)

theorem reports_linked (site : Option Site) (v : Value) : Reports (linked site v) := by
  unfold linked
  split
  · exact reports_ofValue _ _ _
  · split
    · exact reports_read _ _ _
    · exact reports_error rfl rfl
  · exact Outcome.failsOnly_error (Fault.isReported_ofNoTitle v)

theorem reports_targeted (site : Option Site) (v : Value) : Reports (targeted site v) := by
  refine (reports_linked site v).bind fun title _ => ?_
  split
  · exact reports_error rfl rfl
  · exact reports_ok _

theorem reports_embedded (site : Option Site) (v : Value) : Reports (embedded site v) := by
  refine (reports_linked site v).bind fun title _ => ?_
  split
  · exact reports_error rfl rfl
  · split
    · exact reports_error rfl rfl
    · split
      · exact reports_error rfl rfl
      · exact reports_ok _

theorem reports_transcluded (site : Option Site) (v : Value) : Reports (transcluded site v) := by
  unfold transcluded
  extract_lets accepted checked
  have haccepted : ∀ read, Reports (accepted read) := by
    intro read
    dsimp only [accepted]
    split
    · exact reports_error rfl rfl
    · split
      · exact reports_error rfl rfl
      · exact reports_ok _
  have hchecked : ∀ named s, v.shown = .ok s → Reports (checked named) := by
    rintro ⟨known, written⟩ s hv
    cases known with
    | none => exact reports_error rfl rfl
    | some known =>
      dsimp only [checked]
      split
      · exact Outcome.failsOnly_error ⟨rfl, Fault.exists_message_misplacedTitle hv _⟩
      · split
        · exact ((reports_read _ _ _).map _).bind fun title _ => haccepted title
        · exact ((reports_ofValue _ _ _).map _).bind fun title _ => haccepted title
  split
  · exact (reports_ok _).bind fun named _ => hchecked named _ rfl
  · exact (reports_ok _).bind fun named _ => hchecked named _ rfl
  · exact Outcome.failsOnly_error (Fault.isReported_ofNoTitle v)

end Title

/-! ## Nodes -/

section

variable (site : Option Site) (title : Value)

theorem PageLink.reports_create (display : Value) : Reports (create site title display) :=
  (Title.reports_targeted site title).bind fun _ _ => (reports_expectDisplay display).bind fun _ _ =>
    reports_ok _

theorem FileLink.reports_create (params : Value) : Reports (create site title params) :=
  (Title.reports_embedded site title).bind fun _ _ => (Slots.reports_ofValue params).bind fun _ _ =>
    reports_ok _

theorem ScannedLink.reports_ofTitle (record : LinkRecord) : Reports (ofTitle site record title) := by
  unfold ofTitle
  split
  · exact (Title.reports_targeted site _).bind fun _ _ => reports_ok _
  · exact Outcome.failsOnly_error (Fault.isReported_ofNoTitle _)

theorem ScannedFileLink.reports_ofTitle (record : LinkRecord) : Reports (ofTitle site record title) := by
  unfold ofTitle
  split
  · exact (Title.reports_embedded site _).bind fun _ _ => reports_ok _
  · exact Outcome.failsOnly_error (Fault.isReported_ofNoTitle _)

end

section

variable {record : BraceRecord} (hleads : ∀ v ∈ record.seeds, ∃ s, v.lead = .ok s)

include hleads

theorem ScannedCall.reports_ofRecord (site : Site) : Reports (ofRecord (some site) record) := by
  unfold ofRecord
  dsimp only
  split
  · refine (HookSplit.reports_ofOrigin _ _).bind fun split _ => ?_
    refine (Outcome.failsOnly_mapM fun v hv => ?_).bind fun values _ => ?_
    · obtain ⟨s, hs⟩ := hleads v hv
      exact SeedValue.reports_positional hs
    · exact (Slots.reports_ofValue _).bind fun _ _ => reports_ok _
  · exact reports_error rfl rfl

theorem ScannedCall.reports_ofHook (site : Site) (templateTitle : Plain) {hook : Value} {s : Text}
    (hhook : hook.shown = .ok s) : Reports (ofHook (some site) record templateTitle hook) := by
  unfold ofHook
  split
  · rename_i text
    exact @reports_ofRecord { record with title := text, templateTitle } hleads site
  · exact Outcome.failsOnly_error ⟨rfl, Fault.exists_message_invalidHook hhook⟩

end

theorem RawTemplate.reports_siteFor (t : RawTemplate) (v : Value) : Reports (t.siteFor v) := by
  unfold siteFor
  split
  · exact reports_ok _
  · exact reports_ok _
  · split
    · exact reports_ok _
    · exact reports_error rfl rfl

/-- Whether the fault is one that attempts report, or that of a key of the seeds which is too long a numeral. -/
def Fault.IsOfSeeds (seeds : List SeedValue) (fault : Fault) : Prop :=
  fault.IsReported ∨ ∃ key, IsSeedKey seeds key ∧ isOverlongKey key = true ∧ fault = .noNumeral key

theorem Reports.isOfSeeds {α : Type} {x : Except Fault α} (h : Reports x) (seeds : List SeedValue) :
    Outcome.FailsOnly (Fault.IsOfSeeds seeds) x := Outcome.FailsOnly.imp h fun _ => Or.inl

theorem ParamTable.failsOnly_ofSeedValues (seeds : List SeedValue) (chains : List (List Text)) :
    Outcome.FailsOnly (Fault.IsOfSeeds seeds) (ofSeedValues seeds chains) := by
  intro fault h
  obtain ⟨v, -, hseed⟩ | hkey := ofSeedValues_eq_error_cases h
  · exact Or.inl (v.reports_toSeed fault hseed)
  · exact Or.inr hkey

theorem ScannedTemplate.failsOnly_ofRecord (site : Option Site) (record : BraceRecord) (hierarchies : Value) :
    Outcome.FailsOnly (Fault.IsOfSeeds record.seeds) (ofRecord site record hierarchies) := by
  refine ((Title.reports_transcluded site _).isOfSeeds _).bind fun title _ => ?_
  refine ((ParamTable.reports_readChains hierarchies).isOfSeeds _).bind fun chains _ => ?_
  exact (ParamTable.failsOnly_ofSeedValues _ chains).bind fun _ _ => Outcome.failsOnly_ok _

theorem RawTemplate.failsOnly_ofRecord (site : Option Site) (record : BraceRecord) (hierarchies : Value) :
    Outcome.FailsOnly (Fault.IsOfSeeds record.seeds) (ofRecord site record hierarchies) := by
  refine ((ParamTable.reports_readChains hierarchies).isOfSeeds _).bind fun chains _ => ?_
  exact (ParamTable.failsOnly_ofSeedValues _ chains).bind fun _ _ => Outcome.failsOnly_ok _

theorem ScannedTemplate.failsOnly_ofTitle (site : Option Site) (record : BraceRecord) (title hierarchies : Value) :
    Outcome.FailsOnly (Fault.IsOfSeeds record.seeds) (ofTitle site record title hierarchies) := by
  unfold ofTitle
  split
  · exact failsOnly_ofRecord site _ hierarchies
  · exact Outcome.failsOnly_error (Or.inl ⟨rfl, _, rfl⟩)

end PageMarkup
