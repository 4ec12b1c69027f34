import PageMarkup.Proofs.Slots.Stepwise

/-!
# Positional values as a length with a partial function

All there is to know of a list with holes is its length and the text at each index below it that has one (`Slots.view`).
Here the calls are told for such views alone, with no list: what has to hold for a call to be done, and the length and the
texts after it (`View.Step`). Any calls one after the other on a list lead to the view that they lead to if those that
cannot be done are left out, and what is read off the list is read off the view (`Slots.view_runSteps`).
-/
namespace PageMarkup

/-- Whether a call is given texts and indexes where it takes them. -/
def Slots.Edit.WellTyped : Slots.Edit → Prop
  | .add value => ∃ text : Text, value = .text text
  | .set value index _ _ => (∃ text : Text, value = .text text) ∧ ∃ i : Int, index = .int i
  | .delete index _ => ∃ i : Int, index = .int i

/-! ## Views -/

/-- A length with a text at some of the indexes below it. -/
@[ext]
structure View where
  size : Nat
  text? : Nat → Option Text
  text?_eq_none : ∀ j, size ≤ j → text? j = none

namespace View

variable {v : View} {i : Nat}

theorem lt_size_of_isSome (h : (v.text? i).isSome) : i < v.size := by
  refine Nat.not_le.mp fun hbeyond => ?_
  rw [v.text?_eq_none i hbeyond] at h
  exact absurd h (by decide)

/-- One text more, at the index that was the length. -/
def extend (v : View) (value : Text) : View where
  size := v.size + 1
  text? j := if j = v.size then some value else v.text? j
  text?_eq_none j h := by rw [if_neg (by omega), v.text?_eq_none j (by omega)]

/-- A text at an index, with the length that this takes. -/
def put (v : View) (i : Nat) (value : Text) : View where
  size := max v.size (i + 1)
  text? j := if j = i then some value else v.text? j
  text?_eq_none j h := by rw [if_neg (by omega), v.text?_eq_none j (by omega)]

/-- No text at an index. -/
def undefine (v : View) (i : Nat) : View where
  size := v.size
  text? j := if j = i then none else v.text? j
  text?_eq_none j h := by rw [v.text?_eq_none j h, ite_self]

/-- The view without an index that has a text: those behind it come one index earlier. -/
def closeUp (v : View) (i : Nat) (h : (v.text? i).isSome) : View where
  size := v.size - 1
  text? j := if j < i then v.text? j else v.text? (j + 1)
  text?_eq_none j hj := by
    have hi := lt_size_of_isSome h
    rw [if_neg (by omega), v.text?_eq_none (j + 1) (by omega)]

/-- What a call that is done makes of a view. -/
inductive Step (v : View) : Slots.Edit → View → Prop
  | add (value : Text) : Step v (.add (.text value)) (v.extend value)
  /-- A text that is there has to make way, and one that is not must not be asked for. -/
  | set (value : Text) (i : Nat) (overwrite ifExists : Bool) (hway : ¬ ((v.text? i).isSome ∧ overwrite = false))
      (hasked : ¬ ((v.text? i).isNone ∧ ifExists = true)) :
      Step v (.set (.text value) (.int i) overwrite ifExists) (v.put i value)
  | shift (i : Nat) (hfound : (v.text? i).isSome) : Step v (.delete (.int i) true) (v.closeUp i hfound)
  | clear (i : Nat) (hfound : (v.text? i).isSome) : Step v (.delete (.int i) false) (v.undefine i)

theorem Step.unique {edit : Slots.Edit} {w w' : View} (h : v.Step edit w) (h' : v.Step edit w') : w = w' := by
  cases h <;> cases h' <;> rfl

theorem Step.wellTyped {edit : Slots.Edit} {w : View} (h : v.Step edit w) : edit.WellTyped := by
  cases h with
  | add value => exact ⟨value, rfl⟩
  | set value i => exact ⟨⟨value, rfl⟩, i, rfl⟩
  | shift i | clear i => exact ⟨i, rfl⟩

/-- What calls one after the other make of a view: those that cannot be done are left out. -/
inductive Runs : View → List Slots.Edit → View → Prop
  | nil (v : View) : Runs v [] v
  | done {v u w : View} {edit : Slots.Edit} {rest : List Slots.Edit} :
      v.Step edit u → Runs u rest w → Runs v (edit :: rest) w
  | refused {v w : View} {edit : Slots.Edit} {rest : List Slots.Edit} :
      (∀ u, ¬ v.Step edit u) → Runs v rest w → Runs v (edit :: rest) w

end View

namespace Slots

/-! ## The view of a list -/

/-- A list as it is seen from without. -/
def view (s : Slots) : View where
  size := s.size
  text? := s.get?
  text?_eq_none _ h := get?_of_size_le h

variable {s t : Slots} {edit : Edit}

@[simp] theorem size_view (s : Slots) : s.view.size = s.size := rfl

@[simp] theorem text?_view (s : Slots) : s.view.text? = s.get? := rfl

/-- The items are the texts of the view, index by index. -/
theorem items_eq (s : Slots) : s.items = (List.range s.view.size).map s.view.text? := by
  refine List.ext_getElem (by simp [size]) fun i hi hi' => ?_
  simp [get?, List.getElem?_eq_getElem hi]

theorem view_push (s : Slots) (value : Text) : (s.push value).view = s.view.extend value :=
  View.ext (size_push s value) (funext (get?_push s value))

theorem view_setAt (s : Slots) (i : Nat) (value : Text) : (s.setAt i value).view = s.view.put i value :=
  View.ext (size_setAt s i value) (funext fun j => get?_setAt s i j value)

theorem view_clearAt (s : Slots) (i : Nat) : (s.clearAt i).view = s.view.undefine i :=
  View.ext List.length_set (funext (get?_clearAt s i))

theorem view_eraseAt {i : Nat} (h : (s.get? i).isSome) : (s.eraseAt i).view = s.view.closeUp i h :=
  View.ext (List.length_eraseIdx_of_lt (View.lt_size_of_isSome (v := s.view) h)) (funext (get?_eraseAt s i))

/-! ## Calls -/

/-- What a call comes to: it is done as the view has it, or answered that it cannot be done, or given what is no text or
no index. -/
inductive Answers (s : Slots) (edit : Edit) : Except Fault (Bool × Slots) → Prop
  | done (t : Slots) : s.view.Step edit t.view → Answers s edit (.ok (true, t))
  | refused : edit.WellTyped → (∀ w, ¬ s.view.Step edit w) → Answers s edit (.ok (false, s))
  | failed (fault : Fault) : ¬ edit.WellTyped → Answers s edit (.error fault)

theorem answers_add (s : Slots) (value : Value) : s.Answers (.add value) (s.answered (.add value)) := by
  cases value with
  | text value =>
    refine Answers.done (s.push value) ?_
    rw [view_push]
    exact View.Step.add value
  | _ => exact Answers.failed _ (by rintro ⟨_, ⟨⟩⟩)

theorem answers_set (s : Slots) (value index : Value) (overwrite ifExists : Bool) :
    s.Answers (.set value index overwrite ifExists) (s.answered (.set value index overwrite ifExists)) := by
  cases value with
  | text value =>
    cases index with
    | int index =>
      have htyped : (Edit.set (.text value) (.int index) overwrite ifExists).WellTyped := ⟨⟨value, rfl⟩, index, rfl⟩
      obtain hneg | ⟨i, rfl⟩ := neg_or_natCast index
      · rw [answered, set_of_neg s value overwrite ifExists hneg]
        refine Answers.refused htyped fun w hw => ?_
        cases hw
        omega
      · rw [answered, set_natCast]
        split
        · rename_i hstays
          refine Answers.refused htyped fun w hw => ?_
          cases hw with
          | set _ _ _ _ hway hasked => exact hstays.elim hway hasked
        · rename_i hstays
          refine Answers.done (s.setAt i value) ?_
          rw [view_setAt]
          exact View.Step.set value i overwrite ifExists (fun h => hstays (Or.inl h)) fun h => hstays (Or.inr h)
    | _ => exact Answers.failed _ (by rintro ⟨-, _, ⟨⟩⟩)
  | _ => exact Answers.failed _ (by rintro ⟨⟨_, ⟨⟩⟩, -⟩)

theorem answers_delete (s : Slots) (index : Value) (shift : Bool) :
    s.Answers (.delete index shift) (s.answered (.delete index shift)) := by
  cases index with
  | int index =>
    have htyped : (Edit.delete (.int index) shift).WellTyped := ⟨index, rfl⟩
    obtain hneg | ⟨i, rfl⟩ := neg_or_natCast index
    · rw [answered, delete_of_neg s shift hneg]
      refine Answers.refused htyped fun w hw => ?_
      cases hw <;> omega
    · rw [answered, delete_natCast]
      cases hget : s.get? i with
      | none =>
        refine Answers.refused htyped fun w hw => ?_
        cases hw with
        | shift _ hfound | clear _ hfound => simp [hget] at hfound
      | some value =>
        have hfound : (s.view.text? i).isSome := Option.isSome_iff_exists.mpr ⟨value, hget⟩
        refine Answers.done _ ?_
        cases shift with
        | false =>
          change View.Step s.view _ (s.clearAt i).view
          rw [view_clearAt]
          exact View.Step.clear i hfound
        | true =>
          change View.Step s.view _ (s.eraseAt i).view
          rw [view_eraseAt hfound]
          exact View.Step.shift i hfound
  | _ => exact Answers.failed _ (by rintro ⟨_, ⟨⟩⟩)

theorem answers_answered (s : Slots) (edit : Edit) : s.Answers edit (s.answered edit) := by
  cases edit with
  | add value => exact answers_add s value
  | set value index overwrite ifExists => exact answers_set s value index overwrite ifExists
  | delete index shift => exact answers_delete s index shift

/-- The calls that are done are those that the view has, and they lead to the list with the view after them. -/
theorem step_iff (s : Slots) (edit : Edit) (w : View) :
    s.view.Step edit w ↔ ∃ t, edit.steps.run s = .ok true t ∧ t.view = w := by
  have hanswers := answers_answered s edit
  simp only [steps_eq, outcome_eq_ok]
  generalize s.answered edit = result at hanswers ⊢
  cases hanswers with
  | done t hstep =>
    constructor
    · intro h
      exact ⟨t, rfl, hstep.unique h⟩
    · rintro ⟨u, hu, rfl⟩
      cases hu
      exact hstep
  | refused _ hnone => exact iff_of_false (hnone w) (by rintro ⟨u, hu, -⟩; cases hu)
  | failed fault htyped => exact iff_of_false (fun h => htyped h.wellTyped) (by rintro ⟨u, hu, -⟩; cases hu)

/-- What is left of a list after a call: the one that the call makes, or the one before. -/
theorem left_cases (s : Slots) (edit : Edit) :
    s.view.Step edit (left (edit.steps.run s)).view ∨
      left (edit.steps.run s) = s ∧ ∀ w, ¬ s.view.Step edit w := by
  have hanswers := answers_answered s edit
  rw [steps_eq]
  generalize s.answered edit = result at hanswers ⊢
  cases hanswers with
  | done t hstep => exact Or.inl hstep
  | refused _ hnone => exact Or.inr ⟨rfl, hnone⟩
  | failed fault htyped => exact Or.inr ⟨rfl, fun w h => htyped h.wellTyped⟩

/-- Calls one after the other lead to one view only, which is that of the list after them. -/
theorem runs_iff (s : Slots) (edits : List Edit) (w : View) : s.view.Runs edits w ↔ w = (s.runSteps edits).view := by
  induction edits generalizing s with
  | nil =>
    constructor
    · rintro ⟨⟩
      rfl
    · rintro rfl
      exact View.Runs.nil _
  | cons edit rest ih =>
    have hrest := ih (left (edit.steps.run s))
    change _ ↔ w = ((left (edit.steps.run s)).runSteps rest).view
    rw [← hrest]
    obtain hstep | ⟨hleft, hnone⟩ := left_cases s edit
    · constructor
      · intro h
        cases h with
        | done hfirst h => rwa [hstep.unique hfirst]
        | refused hnone h => exact absurd hstep (hnone _)
      · exact View.Runs.done hstep
    · rw [hleft]
      constructor
      · intro h
        cases h with
        | done hfirst h => exact absurd hfirst (hnone _)
        | refused _ h => exact h
      · exact View.Runs.refused hnone

/-! ## Lists and their views -/

/-- Whether all that calls do to a list, and all that is read off it, is seen in its view. -/
structure RefinesView (s : Slots) : Prop where
  /-- The steps are those of the calls. -/
  steps : ∀ edit : Edit, edit.steps.run s = outcome s (s.answered edit)
  left : ∀ edit : Edit, left (edit.steps.run s) = s.after edit
  done_iff : ∀ (edit : Edit) w, s.view.Step edit w ↔ ∃ t, edit.steps.run s = .ok true t ∧ t.view = w
  refused : ∀ (edit : Edit) t, edit.steps.run s = .ok false t → t = s
  failed : ∀ (edit : Edit) fault t, edit.steps.run s = .error fault t → t = s
  fails_iff : ∀ edit : Edit, (∃ fault t, edit.steps.run s = .error fault t) ↔ ¬ edit.WellTyped
  lookUp : ∀ index, (Steps.lookUp index).run s = outcome s ((fun found => (found, s)) <$> s.get index)
  get_natCast : ∀ i : Nat, s.get (.int i) = .ok (s.view.text? i)
  get_of_neg : ∀ index : Int, index < 0 → s.get (.int index) = .ok none
  values_eq : s.values = (List.range s.view.size).filterMap s.view.text?
  strings_eq : s.strings = (List.range s.view.size).map fun i => (s.view.text? i).getD []

theorem refinesView (s : Slots) : s.RefinesView where
  steps := steps_eq s
  left := left_steps s
  done_iff := step_iff s
  refused edit t h := by
    rw [steps_eq, outcome_eq_ok] at h
    have hanswers := answers_answered s edit
    rw [h] at hanswers
    cases hanswers
    rfl
  failed edit fault t h := by
    rw [steps_eq, outcome_eq_error] at h
    exact h.2
  fails_iff edit := by
    have hanswers := answers_answered s edit
    simp only [steps_eq, outcome_eq_error]
    generalize s.answered edit = result at hanswers ⊢
    cases hanswers with
    | done t hstep => simp [hstep.wellTyped]
    | refused htyped _ => simp [htyped]
    | failed fault htyped => simp [htyped]
  lookUp := Steps.run_lookUp s
  get_natCast i := by rw [get_int, place?_natCast]; rfl
  get_of_neg index h := by rw [get_int, place?_of_neg h]; rfl
  values_eq := by
    rw [values, items_eq, List.filterMap_map]
    rfl
  strings_eq := by
    rw [strings, items_eq, List.map_map]
    rfl

/-- Whatever calls were made on a list before, its view is the one that they lead to without the list, and all that comes
next is seen in it. -/
theorem view_runSteps (s : Slots) (edits : List Edit) :
    (∀ w, s.view.Runs edits w ↔ w = (s.runSteps edits).view) ∧ (s.runSteps edits).RefinesView :=
  ⟨runs_iff s edits, refinesView _⟩

end Slots

end PageMarkup
