import PageMarkup.Proofs.Node.Edits
import PageMarkup.Proofs.Page.LinkRoundTrip
import PageMarkup.Proofs.Site.Names

/-!
# Conversions of edited nodes

A conversion takes its data from what a node is made of, so that edits make no difference to it: it comes to the same as
the conversion of the pristine copy. There is one exception, the conversion of a link that embeds a file to a link to a
page, which displays the parameters as they are now. `Node.converted_run` says exactly when edits show.
-/
namespace PageMarkup

namespace Node

/-- A conversion that a node is asked for. -/
inductive Conversion where
  | toTemplate (title hierarchies : Value) (verbose : Bool)
  | toCall (hook : Value) (verbose : Bool)
  | toLink (title : Value) (verbose : Bool)
  | toFileLink (title : Value) (verbose : Bool)

def convert (node : Node) : Conversion → Except Fault (Attempt Node)
  | .toTemplate title hierarchies verbose => node.toTemplate title hierarchies verbose
  | .toCall hook verbose => node.toCall hook verbose
  | .toLink title verbose => node.toLink title verbose
  | .toFileLink title verbose => node.toFileLink title verbose

/-- What a conversion comes to, apart from its report: a node, nothing, or a fault that is passed on. -/
def converted (node : Node) (c : Conversion) : Except Fault (Option Node) := Attempt.result <$> node.convert c

/-- The parameters of a found link that embeds a file, joined by pipes. -/
def joined? : Node → Option Text
  | scannedFileLink l => l.joinedParams?
  | _ => none

/-- Whether the conversion makes a link that displays parameters: a link to a page out of one that embeds a file, with a
title that fits. -/
def ShowsParams : Node → Conversion → Prop
  | scannedFileLink l, .toLink title _ => ∃ t, Title.targeted (some l.title.site) title.fullTitleText = .ok t
  | _, _ => False

end Node

/-! ## What conversions depend on -/

open ParamTable (readChains chainsValue)

/-- The site for a title depends on the site of a raw template alone. If there is none the conversion has no result. -/
theorem RawTemplate.outcome_siteFor {α : Type} {t u : RawTemplate} (h : t.site = u.site) (v : Value)
    (f : Site → Except Fault α) (action : Except Unwritable Text) (verbose : Bool) :
    Attempt.outcome action verbose (t.siteFor v >>= f) = Attempt.outcome action verbose (u.siteFor v >>= f) := by
  cases v with
  | leaf a =>
    cases a with
    | title title | unplaced title => rfl
    | _ =>
      simp only [siteFor, h]
      cases u.site <;> rfl
  | _ =>
    simp only [siteFor, h]
    cases u.site <;> rfl

/-- A title that cannot be written would not be named by the report of the attempt either. -/
theorem RawTemplate.toTemplate_eq (t : RawTemplate) (title : Value) (verbose : Bool) :
    t.toTemplate title verbose = Attempt.of (makingTemplate title) t.shown verbose (t.siteFor title >>= fun site =>
      ScannedTemplate.ofTitle (some site) t.record title.titleText (chainsValue t.params.chains)) := by
  cases title with
  | leaf a => cases a <;> rfl
  | _ => rfl

theorem ScannedCall.toTemplate_eq {call : ScannedCall} {title : Value} (h : call.askedTitle title ≠ .null)
    (hierarchies : Value) (verbose : Bool) :
    call.toTemplate title hierarchies verbose = Attempt.of (makingTemplate (call.askedTitle title)) call.shown verbose
      (ScannedTemplate.ofTitle (some call.site) call.record (call.askedTitle title) hierarchies) := by
  unfold toTemplate
  split
  · exact absurd ‹_› h
  · rename_i hasked
    rw [hasked]
    rfl
  · rfl

theorem ScannedTemplate.ofTitle_congr (site : Option Site) (record : BraceRecord) (title : Value)
    {hierarchies other : Value} (h : readChains hierarchies = readChains other) :
    ofTitle site record title hierarchies = ofTitle site record title other := by
  unfold ofTitle
  split
  · exact ofRecord_congr _ _ h
  · rfl

/-- A link whose title does not fit is refused in the same way, whatever it displays. -/
theorem ScannedLink.ofTitle_showing_of_error {site : Option Site} {record : LinkRecord} {title : Value} {fault : Fault}
    (h : Title.targeted site title.fullTitleText = .error fault) (display other : Option Text) :
    ofTitle site (record.showing display none) title = ofTitle site (record.showing other none) title := by
  unfold ofTitle
  split
  · rename_i s hs
    rw [hs] at h
    have hrefused : ∀ shown, ofRecord site { record.showing shown none with title := s } = .error fault :=
      fun shown => Outcome.bind_eq_error.mpr (Or.inl h)
    rw [hrefused display, hrefused other]
  · rfl

theorem Value.exists_text_of_targeted {site : Option Site} {v : Value} {t : Title}
    (h : Title.targeted site v.fullTitleText = .ok t) : ∃ s, v.fullTitleText = .text s := by
  have hlinked := Title.linked_of_targeted h
  cases v with
  | text s => exact ⟨s, rfl⟩
  | leaf a =>
    cases a with
    | title w => exact ⟨_, rfl⟩
    | _ => simp [fullTitleText, Title.linked] at hlinked
  | _ => simp [fullTitleText, Title.linked] at hlinked

section

variable {site : Option Site} {title : Value} {t : Title} {s : Text}

theorem ScannedLink.ofTitle_eq_ok (hs : title.fullTitleText = .text s) (h : Title.targeted site (.text s) = .ok t)
    (record : LinkRecord) :
    ofTitle site record title = .ok {
      title := t, display := record.display.bind displayOf, record := { record with title := s }
      scannedTitle := t, scannedDisplay := record.display.bind displayOf } := by
  unfold ofTitle
  rw [hs]
  exact Outcome.bind_eq_ok.mpr ⟨t, h, rfl⟩

/-- A link whose title fits is written with what it displays, behind a title that does not depend on that. -/
theorem ScannedLink.exists_render_ofTitle (h : Title.targeted site title.fullTitleText = .ok t) (record : LinkRecord) :
    ∃ written : Bool → Text, ∀ display, ∃ link, ofTitle site (record.showing display none) title = .ok link ∧
      ∀ raw, link.render raw = writeBrackets (written raw) display := by
  obtain ⟨s, hs⟩ := Value.exists_text_of_targeted h
  rw [hs] at h
  refine ⟨fun raw => if raw then Origin.titlePart { record.toOrigin with title := s } (t.render true true) (t.same t)
    else t.render true true, fun display => ⟨_, ofTitle_eq_ok hs h _, fun raw => ?_⟩⟩
  have hdisplay := LinkRecord.displayPart_self { record.showing display none with title := s }
  exact congrArg (writeBrackets _) hdisplay

theorem writeBrackets_injective (written : Text) : Function.Injective (writeBrackets written) := by
  intro display other h
  cases display <;> cases other <;> simp_all [writeBrackets]

end

namespace Node

variable {node fresh : Node}

theorem result_attempted_congr {α : Type} (make : α → Node) {x y : Except Fault (Attempt α)}
    (h : Attempt.result <$> x = Attempt.result <$> y) :
    Attempt.result <$> attempted make x = Attempt.result <$> attempted make y := by
  rw [result_attempted, result_attempted, h]

/-- A conversion comes to the same on a node and on its pristine copy, if it displays no parameters or both have the
same ones. -/
theorem converted_of_pristine (h : node.pristine = .ok fresh) {c : Conversion}
    (hjoined : fresh.ShowsParams c → node.joined? = fresh.joined?) : node.converted c = fresh.converted c := by
  cases node with
  | scannedTemplate t =>
    obtain ⟨u, hu, rfl⟩ := Outcome.map_eq_ok.mp h
    obtain ⟨hsite, hrecord, -⟩ := ScannedTemplate.ofRecord_eq_ok hu
    have hsite : t.title.site = u.title.site := Option.some.inj hsite
    cases c with
    | toCall hook verbose =>
      refine result_attempted_congr scannedCall ?_
      simp only [ScannedTemplate.toCall, Attempt.result_of, hsite, hrecord]
    | _ => rfl
  | rawTemplate t =>
    obtain ⟨u, hu, rfl⟩ := Outcome.map_eq_ok.mp h
    obtain ⟨hsite, hrecord, hchains⟩ := RawTemplate.ofRecord_eq_ok hu
    cases c with
    | toTemplate title hierarchies verbose =>
      have hreads : readChains (chainsValue t.params.chains) = readChains (chainsValue u.params.chains) := by
        rw [hchains, ParamTable.readChains_chainsValue (ParamTable.trimmedChains_readChains hchains)]
      refine result_attempted_congr scannedTemplate ?_
      simp only [RawTemplate.toTemplate_eq, Attempt.result_of, hrecord, ScannedTemplate.ofTitle_congr _ _ _ hreads]
      exact RawTemplate.outcome_siteFor hsite.symm title _ _ _
    | toCall hook verbose =>
      refine result_attempted_congr scannedCall ?_
      simp only [RawTemplate.toCall, Attempt.result_of, hrecord]
      exact RawTemplate.outcome_siteFor hsite.symm hook _ _ _
    | _ => rfl
  | scannedCall call =>
    obtain ⟨u, hu, rfl⟩ := Outcome.map_eq_ok.mp h
    obtain ⟨hsite, hrecord⟩ := ScannedCall.ofRecord_eq_ok hu
    have hsite : call.site = u.site := Option.some.inj hsite
    cases c with
    | toTemplate title hierarchies verbose =>
      refine result_attempted_congr scannedTemplate ?_
      simp only [ScannedCall.toTemplate, ScannedCall.askedTitle, hsite, hrecord]
      split
      · rw [Attempt.result_failed, Attempt.result_failed]
      · rfl
      · rw [Attempt.result_of, Attempt.result_of]
    | _ => rfl
  | scannedLink link =>
    obtain ⟨u, hu, rfl⟩ := Outcome.map_eq_ok.mp h
    obtain ⟨hsite, hrecord⟩ := ScannedLink.ofRecord_eq_ok hu
    have hsite : link.title.site = u.title.site := Option.some.inj hsite
    cases c with
    | toFileLink title verbose =>
      refine result_attempted_congr scannedFileLink ?_
      simp only [ScannedLink.toFileLink, Attempt.result_of, hsite, hrecord]
    | _ => rfl
  | scannedFileLink link =>
    obtain ⟨u, hu, rfl⟩ := Outcome.map_eq_ok.mp h
    obtain ⟨hsite, hrecord⟩ := ScannedFileLink.ofRecord_eq_ok hu
    have hsite : link.title.site = u.title.site := Option.some.inj hsite
    cases c with
    | toLink title verbose =>
      refine result_attempted_congr scannedLink ?_
      simp only [ScannedFileLink.toLink, Attempt.result_of, hsite, hrecord]
      cases hfits : Title.targeted (some u.title.site) title.fullTitleText with
      | ok t =>
        have hsame : link.joinedParams? = u.joinedParams? := hjoined ⟨t, hfits⟩
        rw [hsame]
      | error fault => rw [ScannedLink.ofTitle_showing_of_error hfits]
    | _ => rfl
  | scannedRawLink link =>
    obtain rfl := Except.ok.inj h
    cases c with
    | toLink title verbose =>
      refine result_attempted_congr scannedLink ?_
      simp only [ScannedRawLink.toLink, Attempt.result_of]
      rfl
    | toFileLink title verbose =>
      refine result_attempted_congr scannedFileLink ?_
      simp only [ScannedRawLink.toFileLink, Attempt.result_of]
      rfl
    | _ => rfl
  | _ => simp [pristine] at h

/-- Unless it displays parameters, a conversion comes to the same whatever was done to the node. -/
theorem converted_run_of_build {source : Source} (h : source.build = .ok node) (edits : List Edit) {c : Conversion}
    (hshows : ¬ node.ShowsParams c) : (node.run edits).converted c = node.converted c :=
  converted_of_pristine (pristine_run_of_build h edits) fun hparams => absurd hparams hshows

/-- A link that embeds a file and that is made a link to a page, with a title that fits, is written with its parameters
behind the title. -/
theorem exists_render_converted {link : ScannedFileLink} {title : Value} {t : Title}
    (h : Title.targeted (some link.title.site) title.fullTitleText = .ok t) :
    ∃ written : Bool → Text, ∀ edited, edited.title.site = link.title.site → edited.record = link.record →
      ∀ verbose, ∃ m, (scannedFileLink edited).converted (.toLink title verbose) = .ok (some m) ∧
        ∀ raw, m.render raw = .ok (writeBrackets (written raw) edited.joinedParams?) := by
  obtain ⟨written, hwritten⟩ := ScannedLink.exists_render_ofTitle h link.record
  refine ⟨written, fun edited hsite hrecord verbose => ?_⟩
  obtain ⟨made, hmade, hrender⟩ := hwritten edited.joinedParams?
  refine ⟨scannedLink made, ?_, fun raw => congrArg Except.ok (hrender raw)⟩
  have hresult : Attempt.result <$> edited.toLink title verbose = .ok (some made) := by
    rw [ScannedFileLink.toLink, Attempt.result_of, hsite, hrecord, hmade]
    rfl
  exact (result_attempted scannedLink _).trans (Attempt.map_result_eq_some.mpr ⟨made, hresult, rfl⟩)

theorem fileLink_of_pristine {link : ScannedFileLink} (h : node.pristine = .ok (scannedFileLink link)) :
    ∃ edited, node = scannedFileLink edited ∧ edited.title.site = link.title.site ∧ edited.record = link.record := by
  cases node with
  | scannedFileLink edited =>
    obtain ⟨u, hu, hsame⟩ := Outcome.map_eq_ok.mp h
    obtain rfl := scannedFileLink.inj hsame
    obtain ⟨hsite, hrecord⟩ := ScannedFileLink.ofRecord_eq_ok hu
    exact ⟨edited, rfl, Option.some.inj hsite, hrecord.symm⟩
  | scannedTemplate t | rawTemplate t | scannedCall c | scannedLink l =>
    obtain ⟨u, -, hsame⟩ := Outcome.map_eq_ok.mp h
    simp at hsame
  | scannedRawLink l => simp [pristine] at h
  | _ => simp [pristine] at h

/-- What a conversion of a node comes to does not depend on the edits made to it. The exception is a link to a page that
is made of one that embeds a file: it displays the parameters as they are now, and is written differently if they are
not joined to the same text. -/
theorem converted_run {source : Source} (h : source.build = .ok node) (edits : List Edit) (c : Conversion) :
    ((node.ShowsParams c → (node.run edits).joined? = node.joined?) →
        (node.run edits).converted c = node.converted c) ∧
      (node.ShowsParams c → (node.run edits).joined? ≠ node.joined? →
        ∃ m m', (node.run edits).converted c = .ok (some m) ∧ node.converted c = .ok (some m') ∧
          ∀ raw, m.render raw ≠ m'.render raw) := by
  have hpristine : (node.run edits).pristine = .ok node := (node.pristine_run edits).trans (pristine_of_build h)
  refine ⟨converted_of_pristine hpristine, fun hshows hjoined => ?_⟩
  cases node with
  | scannedFileLink link =>
    cases c with
    | toLink title verbose =>
      obtain ⟨t, hfits⟩ := hshows
      obtain ⟨edited, hedited, hsite, hrecord⟩ := fileLink_of_pristine hpristine
      obtain ⟨written, hwritten⟩ := exists_render_converted hfits
      obtain ⟨m, hm, hrender⟩ := hwritten edited hsite hrecord verbose
      obtain ⟨m', hm', hrender'⟩ := hwritten link rfl rfl verbose
      rw [hedited] at hjoined ⊢
      refine ⟨m, m', hm, hm', fun raw hsame => hjoined ?_⟩
      rw [hrender, hrender'] at hsame
      exact writeBrackets_injective _ (Except.ok.inj hsame)
    | _ => exact hshows.elim
  | _ => exact hshows.elim

/-- The record of `[[File:Foo.png|thumb|cap]]`. -/
def captionedFile : LinkRecord where
  title := "File:Foo.png".toList
  rawTitle := [titleMarker]
  written := "[[File:Foo.png|thumb|cap]]".toList
  span := ⟨0, 26⟩
  params := some ["thumb".toList, "cap".toList]

/-- A new title makes no difference to the conversion of a link that embeds a file. -/
theorem converted_run_renamed : ∃ node, (Source.fileLink (some .small) captionedFile).build = .ok node ∧
    (node.run [.title (.text "File:Bar.png".toList) false]).render = .ok "[[File:Bar.png|thumb|cap]]".toList ∧
    (node.run [.title (.text "File:Bar.png".toList) false]).converted (.toLink (.text "Bar".toList) false) =
      node.converted (.toLink (.text "Bar".toList) false) ∧
    ∃ m, node.converted (.toLink (.text "Bar".toList) false) = .ok (some m) ∧
      m.render = .ok "[[Bar|thumb|cap]]".toList := by
  have hbuild : (Source.fileLink (some .small) captionedFile).build = .ok _ := rfl
  exact ⟨_, hbuild, rfl, (converted_run hbuild _ _).1 fun _ => rfl, _, rfl, rfl⟩

/-- A new parameter is displayed by the link that a link which embeds a file is converted to. -/
theorem converted_run_extended : ∃ node m m', (Source.fileLink (some .small) captionedFile).build = .ok node ∧
    (node.run [.slots (.add (.text "x".toList))]).converted (.toLink (.text "Bar".toList) false) = .ok (some m) ∧
    node.converted (.toLink (.text "Bar".toList) false) = .ok (some m') ∧
    m.render = .ok "[[Bar|thumb|cap|x]]".toList ∧ m'.render = .ok "[[Bar|thumb|cap]]".toList :=
  ⟨_, _, _, rfl, rfl, rfl, rfl, rfl⟩

end Node

end PageMarkup
