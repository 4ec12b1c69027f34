import PageMarkup.Proofs.Node.GivenTitles
import PageMarkup.Proofs.Template.LocalEdits

/-!
# Nodes that come of conversions

A node that a page holds is edited and converted, what comes of it is edited and converted in turn, and so on
(`Page.Yields`). Each node on the way is made of a record of its own, whatever was done to the ones before it. So its
pristine copy is the node as it was when it was made, whatever is done to it (`Page.pristine_of_yields`).
-/
namespace PageMarkup

namespace Node

variable {source : Source} {node m : Node} {c : Conversion}

/-- What a conversion yields comes of a node that can be asked for it. -/
theorem offers_of_converted (h : node.converted c = .ok (some m)) : node.Offers c := by
  cases node <;> cases c <;> trivial

/-- A node that is made of a record has it. -/
theorem exists_record_of_build (h : source.build = .ok node) :
    (∃ r, node.braceRecord? = some r) ∨ ∃ r, node.linkRecord? = some r := by
  cases source with
  | template site record hierarchies | rawTemplate site record hierarchies | call site record =>
    obtain ⟨t, -, rfl⟩ := Outcome.map_eq_ok.mp h
    exact Or.inl ⟨_, rfl⟩
  | link site record | fileLink site record =>
    obtain ⟨link, -, rfl⟩ := Outcome.map_eq_ok.mp h
    exact Or.inr ⟨_, rfl⟩
  | rawLink site record =>
    obtain rfl := Except.ok.inj h
    exact Or.inr ⟨_, rfl⟩

/-- A node with a record is made of it: what a caller makes has none. -/
theorem Made.exists_source (h : m.Made) (hrecord : (∃ r, m.braceRecord? = some r) ∨ ∃ r, m.linkRecord? = some r) :
    ∃ source : Source, source.build = .ok m := by
  cases h with
  | found h => exact ⟨_, h⟩
  | _ => simp [braceRecord?, linkRecord?] at hrecord

/-- What comes of a node that is made of a record, after any edits, is made of a record again. -/
theorem exists_source_of_converted (h : source.build = .ok node) {edits : List Edit}
    (hm : (node.run edits).converted c = .ok (some m)) : ∃ source : Source, source.build = .ok m := by
  obtain ⟨hbrace, hlink⟩ := records_of_pristine (pristine_run_of_build h edits)
  have hmade : m.Made ∧ (node.run edits).SameConstruct m := by
    obtain ⟨hnone, -⟩ | ⟨action, verbose, x, hx, hconverts⟩ := conversion_cases (offers_of_converted hm)
    · simp [hnone] at hm
    · exact hconverts.made m (Attempt.eq_ok_of_outcome (hx.symm.trans hm))
  -- What a caller makes has no record, but the record of the node is handed on.
  refine hmade.1.exists_source ?_
  obtain ⟨r, hr⟩ | ⟨r, hr⟩ := exists_record_of_build h
  · obtain ⟨q, hq, -⟩ := hmade.2.brace r (hbrace.trans hr)
    exact Or.inl ⟨q, hq⟩
  · obtain ⟨q, hq, -⟩ := hmade.2.link r (hlink.trans hr)
    exact Or.inr ⟨q, hq⟩

/-- The title that the construct had, if the conversion makes a call of it. -/
def titleLeft (node : Node) : Conversion → List Text
  | .toCall .. => (node.braceRecord?.map (·.title)).toList
  | _ => []

end Node

/-- Whether the node is one that a page holds, or comes of one by conversions with any edits between them. The titles
are those that the construct had when it was made a call, in the order of the conversions. -/
inductive Page.Yields (page : Page) : List Text → Node → Prop where
  | held {node : Node} (h : page.Holds node) : Yields page [] node
  | converted {left : List Text} {node m : Node} {edits : List Node.Edit} {c : Node.Conversion}
      (h : Yields page left node) (hm : (node.run edits).converted c = .ok (some m)) :
      Yields page (left ++ node.titleLeft c) m

variable {page : Page} {left : List Text} {node : Node}

theorem Page.Yields.unedited {m : Node} {c : Node.Conversion} (h : page.Yields left node)
    (hm : node.converted c = .ok (some m)) : page.Yields (left ++ node.titleLeft c) m :=
  @Page.Yields.converted page left node m [] c h hm

theorem Page.Yields.exists_source (h : page.Yields left node) : ∃ source : Node.Source, source.build = .ok node := by
  induction h with
  | held h => exact h.exists_source
  | converted h hm ih =>
    obtain ⟨source, hbuild⟩ := ih
    exact Node.exists_source_of_converted hbuild hm

/-- The pristine copy of a node that a page holds, or that comes of one by conversions, is the node as it was when it
was made, whatever was done to it since, with success or without. -/
theorem Page.pristine_of_yields (h : page.Yields left node) (edits : List Node.Edit) :
    (node.run edits).pristine = .ok node := by
  obtain ⟨source, hbuild⟩ := h.exists_source
  exact Node.pristine_run_of_build hbuild edits

/-- A call that was a template, and that has refused a hook and lost a parameter since. -/
theorem Page.pristine_of_yields_localPage : ∃ t m edited, localPage.templates = .ok [.template t] ∧
    ((Node.scannedTemplate t).run [.title (.text "Bar".toList) false]).converted
      (.toCall (.text "#if: x".toList) false) = .ok (some m) ∧
    m.changed? (.hook (.text "Foo".toList)) = .ok none ∧
    m.run [.hook (.text "Foo".toList), .slots (.delete (.int 1) true)] = edited ∧
    m.render = .ok "\x7b\x7b#if: x |b| k = c \x7d\x7d".toList ∧
    edited.render = .ok "\x7b\x7b#if: x | k = c \x7d\x7d".toList ∧ edited.pristine = .ok m := by
  obtain ⟨t, m, ht, hm, hrefused, hrender, hedited⟩ : ∃ (t : ScannedTemplate) (m : Node),
      localPage.templatesOf (braceRecordsOf [] [localBrace]) = .ok [.template t] ∧
      ((Node.scannedTemplate t).run [.title (.text "Bar".toList) false]).converted
        (.toCall (.text "#if: x".toList) false) = .ok (some m) ∧
      m.changed? (.hook (.text "Foo".toList)) = .ok none ∧
      m.render = .ok "\x7b\x7b#if: x |b| k = c \x7d\x7d".toList ∧
      (m.run [.hook (.text "Foo".toList), .slots (.delete (.int 1) true)]).render =
        .ok "\x7b\x7b#if: x | k = c \x7d\x7d".toList := ⟨_, _, rfl, rfl, rfl, rfl, rfl⟩
  have htemplates : localPage.templates = .ok [.template t] := by
    rw [← ht, ← braces_localPage]
    rfl
  have hheld : localPage.Yields [] (.scannedTemplate t) :=
    .held (Or.inl ⟨_, _, _, _, htemplates, .template t, List.mem_cons_self, rfl⟩)
  exact ⟨t, m, _, htemplates, hm, hrefused, rfl, hrender, hedited, pristine_of_yields (.converted hheld hm) _⟩

end PageMarkup
