import PageMarkup.Proofs.Hook.Reading
import PageMarkup.Proofs.Node.Made
import PageMarkup.Proofs.Site.Names

/-!
# Function calls that are read again

The hook of a call was recognized by the table of its site when the call was made or was given another hook
(`FunctionCall.IsVerified`), and no edit of the parameters touches it. Since the hook stands first between the braces,
the text there calls the same function, whatever the parameters are (`FunctionCall.IsVerified.verify_inner`). A call that
is written in its canonical form calls the same function on sites whose hooks can be told apart
(`Site.ReadsCanonicalHooks`). `Node.verify_run_of_made` has both for calls that are made and edited.
-/
namespace PageMarkup

/-- Whether every function of the site has a name that hooks can be made of, and none is called by the canonical hook of
another one that is listed later. -/
structure Site.ReadsCanonicalHooks (site : Site) : Prop where
  named : ∀ word ∈ site.magicWords, word.name ∈ site.functionHooks → IsHookName word.name
  unshadowed : site.hookTable.Unshadowed

/-- What stands between the braces of a call in the given style. -/
def FunctionCall.inner (call : FunctionCall) (style : CallStyle := {}) : Text :=
  style.lead ++ call.styledHook style ++ Text.joinWith ['|'] (style.paramTexts call.params.strings)

theorem FunctionCall.render_eq_inner (call : FunctionCall) (style : CallStyle) :
    call.render style = ['{', '{'] ++ call.inner style ++ ['}', '}'] := by
  simp [render, CallStyle.write, inner]

/-- A scanned call that is not written with its raw hook is written as a call that was made by hand. -/
theorem ScannedCall.render_false (call : ScannedCall) (style : CallStyle) :
    call.render false style = call.toFunctionCall.render style := rfl

namespace FunctionCall

/-- Whether the site recognized the hook of the call. -/
def IsVerified (call : FunctionCall) : Prop :=
  ∃ s, call.site.hookTable.verify s = some ⟨call.canonical, call.hook⟩

theorem isVerified_create {site : Option Site} {hook params : Value} {call : FunctionCall}
    (h : create site hook params = .ok call) : call.IsVerified := by
  unfold create at h
  cases site with
  | none => simp at h
  | some site =>
    dsimp only at h
    split at h
    · rename_i verified hverified
      obtain ⟨slots, -, hpure⟩ := Outcome.bind_eq_ok.mp h
      obtain rfl := Except.ok.inj hpure
      cases hook with
      | text s => exact ⟨s, hverified⟩
      | _ => simp [Site.verifyHook] at hverified
    · simp at h

theorem setHook?_eq_some {call changed : FunctionCall} {hook : Value} (h : call.setHook? hook = some changed) :
    changed.site = call.site ∧ changed.IsVerified := by
  obtain ⟨verified, hverified, rfl⟩ := Option.map_eq_some_iff.mp h
  cases hook with
  | text s => exact ⟨rfl, s, hverified⟩
  | _ => simp [Site.verifyHook] at hverified

namespace IsVerified

variable {call : FunctionCall} {style : CallStyle}

/-- Between its braces a call calls the function that it is of. -/
theorem verify_inner (h : call.IsVerified) (hstyle : style.canonical = false)
    (hlead : ∀ d ∈ style.lead, isBlank d = true) :
    call.site.hookTable.verify (call.inner style) = some ⟨call.canonical, call.hook⟩ := by
  obtain ⟨s, hs⟩ := h
  rw [inner, styledHook, hstyle]
  exact HookTable.verify_append hs hlead _

/-- In its canonical form a call calls the function that it is of, if the site can tell its hooks apart. -/
theorem verify_inner_canonical (h : call.IsVerified) (hsite : call.site.ReadsCanonicalHooks)
    (hstyle : style.canonical = true) (hlead : ∀ d ∈ style.lead, isBlank d = true) :
    call.site.hookTable.verify (call.inner style) = some ⟨call.canonical, call.canonical⟩ := by
  obtain ⟨s, hs⟩ := h
  obtain ⟨-, entry, hentry⟩ := HookTable.verify_eq_some_iff.mp hs
  rw [inner, styledHook, hstyle]
  exact HookTable.verify_canonical_append hsite.named hsite.unshadowed (List.mem_of_find?_eq_some hentry) hlead _

end IsVerified

end FunctionCall

theorem ScannedCall.isVerified_ofRecord {site : Option Site} {record : BraceRecord} {call : ScannedCall}
    (h : ofRecord site record = .ok call) : call.IsVerified := by
  obtain ⟨known, verified, split, values, params, -, hverified, -, -, -, rfl⟩ := exists_of_ofRecord_eq_ok h
  exact ⟨record.title, hverified⟩

namespace Node

/-- Whether the node is a call on the given site whose hook the site recognized. -/
def CallsOn (site : Site) (node : Node) : Prop :=
  ∃ call, node.call? = some call ∧ call.site = site ∧ call.IsVerified

theorem Made.callsOn {node : Node} {call : FunctionCall} (h : node.Made) (hcall : node.call? = some call) :
    node.CallsOn call.site := by
  refine ⟨call, hcall, rfl, ?_⟩
  cases h with
  | call hcreate =>
    obtain rfl := Option.some.inj hcall
    exact FunctionCall.isVerified_create hcreate
  | @found source node hbuild =>
    cases source with
    | call site record =>
      obtain ⟨c, hc, rfl⟩ := Outcome.map_eq_ok.mp hbuild
      obtain rfl := Option.some.inj hcall
      exact ScannedCall.isVerified_ofRecord hc
    | rawLink site record =>
      obtain rfl := Except.ok.inj hbuild
      simp [call?] at hcall
    | _ =>
      obtain ⟨c, -, rfl⟩ := Outcome.map_eq_ok.mp hbuild
      simp [call?] at hcall
  | _ => simp [call?] at hcall

theorem call?_withSlots (node : Node) (slots : Slots) :
    (node.withSlots slots).call? = node.call?.map fun call => { call with params := slots } := by
  cases node <;> rfl

theorem exists_call?_of_setHook? {node changed : Node} {hook : Value} (h : node.setHook? hook = .ok (some changed)) :
    ∃ c d, node.call? = some c ∧ c.setHook? hook = some d ∧ changed.call? = some d := by
  cases node with
  | call c =>
    obtain ⟨d, hd, rfl⟩ := Option.map_eq_some_iff.mp (Except.ok.inj h)
    exact ⟨c, d, rfl, hd, rfl⟩
  | scannedCall c =>
    obtain ⟨u, hu, rfl⟩ := Option.map_eq_some_iff.mp (Except.ok.inj h)
    obtain ⟨d, hd, rfl⟩ := Option.map_eq_some_iff.mp hu
    exact ⟨c.toFunctionCall, d, rfl, hd, rfl⟩
  | _ => simp [setHook?] at h

/-- An edit of a call leaves a call on the same site. Its parameters may be other ones and its hook may be, but then the
site has recognized that one. -/
theorem CallsOn.changed {site : Site} {node changed : Node} {edit : Edit} (h : node.CallsOn site)
    (hchanged : node.changed? edit = .ok (some changed)) : changed.CallsOn site := by
  obtain ⟨call, hcall, rfl, hverified⟩ := h
  cases edit with
  | slots edit =>
    obtain ⟨slots, -, rfl⟩ := Option.map_eq_some_iff.mp (Except.ok.inj hchanged)
    exact ⟨{ call with params := slots.after edit }, by rw [call?_withSlots, hcall, Option.map_some], rfl, hverified⟩
  | hook hook =>
    obtain ⟨c, d, hc, hd, hcalled⟩ := exists_call?_of_setHook? hchanged
    obtain rfl := Option.some.inj (hcall.symm.trans hc)
    exact ⟨d, hcalled, FunctionCall.setHook?_eq_some hd⟩
  | _ =>
    -- Calls have no table, no title and no display to be changed.
    cases node with
    | call c | scannedCall c =>
      simp [changed?, table?, setTitle, setDisplay, Functor.map, Except.map] at hchanged
    | _ => simp [call?] at hcall

theorem CallsOn.after {site : Site} {node : Node} (h : node.CallsOn site) (edit : Edit) :
    (node.after edit).CallsOn site := by
  unfold Node.after
  split
  · rename_i changed hchanged
    exact h.changed hchanged
  · exact h

theorem render_of_call? {node : Node} {call : FunctionCall} (h : node.call? = some call) :
    node.render = .ok call.render := by
  cases node with
  | call c =>
    obtain rfl := Option.some.inj h
    rfl
  | scannedCall c =>
    obtain rfl := Option.some.inj h
    exact congrArg Except.ok (c.render_false {})
  | _ => simp [call?] at h

/-- However a call was made and edited, the text between its braces calls the function that it is of. So does its
canonical form, if the site can tell its hooks apart. -/
theorem verify_run_of_made {node : Node} {start : FunctionCall} (hmade : node.Made) (hstart : node.call? = some start)
    (edits : List Edit) :
    ∃ call, (node.run edits).call? = some call ∧ (node.run edits).render = .ok call.render ∧ call.site = start.site ∧
      ∀ style : CallStyle, (∀ d ∈ style.lead, isBlank d = true) →
        ∃ inner, call.render style = ['{', '{'] ++ inner ++ ['}', '}'] ∧
          (style.canonical = false → start.site.hookTable.verify inner = some ⟨call.canonical, call.hook⟩) ∧
          (style.canonical = true → start.site.ReadsCanonicalHooks →
            start.site.hookTable.verify inner = some ⟨call.canonical, call.canonical⟩) := by
  have hrun : (node.run edits).CallsOn start.site :=
    run_induction (fun _ edit h => h.after edit) (hmade.callsOn hstart) edits
  obtain ⟨call, hcall, hsite, hverified⟩ := hrun
  refine ⟨call, hcall, render_of_call? hcall, hsite, fun style hlead =>
    ⟨call.inner style, call.render_eq_inner style, ?_, ?_⟩⟩
  · intro hstyle
    rw [← hsite]
    exact hverified.verify_inner hstyle hlead
  · intro hstyle hcanonical
    rw [← hsite] at hcanonical ⊢
    exact hverified.verify_inner_canonical hcanonical hstyle hlead

/-- A site with two functions, one of them without a number sign and with a hook whose case counts. -/
def callingSite : Site :=
  { Site.small with
    magicWords :=
      [{ name := "if".toList, aliases := ["wenn".toList], caseSensitive := false },
       { name := "lc".toList, aliases := ["lcase:".toList], caseSensitive := true }]
    functionHooks := ["if".toList, "lc".toList] }

theorem readsCanonicalHooks_callingSite : callingSite.ReadsCanonicalHooks where
  named := by
    intro word hword _
    simp only [callingSite, List.mem_cons, List.not_mem_nil, or_false] at hword
    obtain rfl | rfl := hword
    · refine ⟨by decide, List.all_eq_true.mp (by decide), by simp, fun c rest hcons => ?_⟩
      obtain ⟨rfl, -⟩ := List.cons.inj hcons
      exact Or.inl (by decide)
    · refine ⟨by decide, List.all_eq_true.mp (by decide), by simp, fun c rest hcons => ?_⟩
      obtain ⟨rfl, -⟩ := List.cons.inj hcons
      exact Or.inl (by decide)
  unshadowed := by
    unfold HookTable.Unshadowed
    decide

/-- A call that is given another hook and a parameter with braces and colons of its own is written as a call of that
hook, in the spelling that it was given and in the canonical one. -/
theorem verify_run_callingSite :
    ∃ start call, FunctionCall.create (some callingSite) (.text "#WENN: x".toList) (.list [.text "a: b".toList]) =
        .ok start ∧
      ((Node.call start).run [.hook (.text "Lcase:".toList), .slots (.add (.text "\x7d\x7d #if:".toList))]).call? =
        some call ∧
      callingSite.ReadsCanonicalHooks ∧
      (∃ inner, call.render = ['{', '{'] ++ inner ++ ['}', '}'] ∧
        callingSite.hookTable.verify inner = some ⟨"lc:".toList, "Lcase:".toList⟩) ∧
      ∃ inner, call.render { canonical := true } = ['{', '{'] ++ inner ++ ['}', '}'] ∧
        callingSite.hookTable.verify inner = some ⟨"lc:".toList, "lc:".toList⟩ := by
  obtain ⟨start, edited, hstart, hedited, hsite, hhook, hcanonical⟩ : ∃ start edited,
      FunctionCall.create (some callingSite) (.text "#WENN: x".toList) (.list [.text "a: b".toList]) = .ok start ∧
      ((Node.call start).run [.hook (.text "Lcase:".toList), .slots (.add (.text "\x7d\x7d #if:".toList))]).call? =
        some edited ∧
      start.site = callingSite ∧ edited.hook = "Lcase:".toList ∧ edited.canonical = "lc:".toList :=
    ⟨_, _, rfl, rfl, rfl, rfl, rfl⟩
  obtain ⟨call, hcall, -, -, hstyles⟩ := verify_run_of_made (.call hstart) rfl
    [.hook (.text "Lcase:".toList), .slots (.add (.text "\x7d\x7d #if:".toList))]
  obtain rfl := Option.some.inj (hedited.symm.trans hcall)
  rw [hsite, hhook, hcanonical] at hstyles
  obtain ⟨inner, hrender, hplain, -⟩ := hstyles {} (by simp)
  obtain ⟨canonicalInner, hrenderCanonical, -, hverify⟩ := hstyles { canonical := true } (by simp)
  exact ⟨start, edited, hstart, hedited, readsCanonicalHooks_callingSite, ⟨inner, hrender, hplain rfl⟩,
    canonicalInner, hrenderCanonical, hverify rfl readsCanonicalHooks_callingSite⟩

end Node

end PageMarkup
