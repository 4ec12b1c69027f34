import PageMarkup.Proofs.Param.Placement

/-!
# Calls step by step

A call looks at its arguments, looks keys up, and changes the parameters and the order one after the other. Each of
these steps may come upon a fault, which would leave the table as the steps before have made it. Here the calls are
spelled out in this way (`Edit.steps`). In tables under chains that do not meet they come to what `call` says, and where
they fail the table is the one before (`steps_eq`): the arguments are looked at before anything is changed, and every
key that is looked up afterwards is there.
-/
namespace PageMarkup.ParamTable

variable {α β : Type} {t u : ParamTable}

/-! ## Steps -/

/-- Steps on a table, one after the other. A fault ends them and leaves the table as it is then. -/
abbrev Steps (α : Type) := EStateM Fault ParamTable α

namespace Steps

/-- What there is to know of the table, or a fault. -/
def ask (question : ParamTable → Except Fault α) : Steps α := fun t =>
  match question t with
  | .ok a => .ok a t
  | .error fault => .error fault t

/-- The table as it is then. -/
def current : Steps ParamTable := getThe ParamTable

/-- Puts a parameter under a key. -/
def write (key : Text) (p : Param) : Steps Unit := modify fun t => { t with live := Keyed.put key p t.live }

/-- Takes the parameter under a key out, which has to be there. -/
def takeOut (key : Text) : Steps Param := do
  let p ← ask fun t => t.paramAt key
  modify fun t => { t with live := Keyed.erase key t.live }
  return p

/-- The place of a key in the order, which has to list it. -/
def placeOf (key : Text) : Steps Nat := ask fun t =>
  if key ∈ t.order then .ok (t.order.idxOf key) else .error (.missingField key)

def reorder (change : List Text → List Text) : Steps Unit := modify fun t => { t with order := change t.order }

/-- Puts a parameter in place of the one under the same key. -/
def replace (p : Param) (position : Option Position) : Steps Unit := do
  let old ← ask fun t => t.paramAt p.key
  let source := if old.value = p.value && old.unnamed = p.unnamed then old.source else p.source
  write p.key { p with superseded := old.superseded, source }
  if position.isSome then reorder (placeKey p.key position false)

/-- Puts a parameter on record beside the one under another key. -/
def record (winner : Text) (p : Param) : Steps Unit := do
  let old ← ask fun t => t.paramAt winner
  write winner { old with superseded := addSuperseded p.asSuperseded false old.superseded }

/-- Puts a parameter in place of the one under another key, which goes on record. -/
def evict (loser : Text) (p : Param) (position : Option Position) : Steps Unit := do
  let old ← takeOut loser
  write p.key { p with superseded := addSuperseded old.asSuperseded false old.superseded }
  let place ← placeOf loser
  let position := if position.bind Position.key? = some loser then none else position
  if position.isSome then do
    reorder (·.eraseIdx place)
    reorder (placeKey p.key position true)
  else reorder (·.set place p.key)

/-- Registers a parameter that is none of those that a table begins with. -/
def register (r : Registration) : Steps Bool := do
  let t ← current
  let p := t.paramOf r
  if r.mustExist && !t.isLive p.key then return false
  else if t.override? p.key = none && !t.isLive p.key then
    write p.key p
    reorder (placeKey p.key r.position true)
    return true
  else if !r.overwrite then return false
  else
    match t.override? p.key with
    | none => do
      replace p r.position
      return true
    | some (.overridden winner) => do
      record winner p
      return false
    | some (.overrides loser) => do
      evict loser p r.position
      return true

/-- Registers a parameter. An unnamed one needs a free key. -/
def enter (r : Registration) : Steps Bool := do
  if (Text.trim r.key).isEmpty then
    let _ ← ask expectFreeKey
    register r
  else register r

/-- Deletes a parameter, if there is one. -/
def delete (key : Text) : Steps Bool := do
  let t ← current
  if t.isLive key then
    let _ ← takeOut key
    let place ← placeOf key
    reorder (·.eraseIdx place)
    return true
  else return false

end Steps

/-! ## Calls -/

open Steps (ask current)

/-- The steps of a call. -/
def Edit.steps : Edit → Steps Bool
  | .insert key value overwrite position => do
    let key ← ask fun _ => match key with
      | .null => .ok []
      | key => Value.expectText "key".toList key
    let value ← ask fun _ => Value.expectText "value".toList value
    let position ← ask fun _ => Position.ofValue position
    Steps.enter { key, value, overwrite, position }
  | .update key value => do
    let key ← ask fun _ => Value.expectText "key".toList key
    let value ← ask fun _ => Value.expectText "value".toList value
    Steps.enter { key, value, mustExist := true }
  | .delete key resolved => do
    let key ← ask fun _ => Value.expectText "key".toList key
    let t ← current
    Steps.delete (if resolved then t.resolve key else key)
  | .copy => do
    let u ← ask fun t => t.copy
    set u
    return true

/-- The steps of a look-up. -/
def getSteps (key : Value) (resolved : Bool) : Steps (Option Param) := do
  let key ← ask fun _ => Value.expectText "key".toList key
  let t ← current
  return t.find? key resolved

/-! ## What the steps come to -/

/-- What comes of a call that leaves the table where it fails. -/
def outcome (t : ParamTable) : Except Fault (α × ParamTable) → EStateM.Result Fault ParamTable α
  | .ok (a, u) => .ok a u
  | .error fault => .error fault t

namespace Steps

theorem ask_bind (question : ParamTable → Except Fault α) (next : α → Steps β) (t : ParamTable) :
    (ask question >>= next).run t = match question t with
      | .ok a => (next a).run t
      | .error fault => .error fault t := by
  simp only [EStateM.run, bind, EStateM.bind, ask]
  cases question t <;> rfl

/-- To look at an argument changes nothing, and if it is as it should be, all depends on what comes next. -/
theorem ask_bind_eq {read : Except Fault α} {next : α → Steps β} {result : α → Except Fault (β × ParamTable)}
    (h : ∀ a, (next a).run t = outcome t (result a)) :
    (ask (fun _ => read) >>= next).run t = outcome t (read >>= result) := by
  rw [ask_bind]
  cases read with
  | error fault => rfl
  | ok a => exact h a

theorem bind_of_ok {first : Steps α} {next : α → Steps β} {a : α} (h : first.run t = .ok a u) :
    (first >>= next).run t = (next a).run u := by
  simp only [EStateM.run] at h
  simp only [EStateM.run, bind, EStateM.bind, h]

theorem current_bind (next : ParamTable → Steps β) (t : ParamTable) : (current >>= next).run t = (next t).run t := rfl

theorem replace_eq {p old : Param} (hold : Keyed.get? p.key t.live = some old) (position : Option Position) :
    (replace p position).run t = .ok () (t.replaceLive old p position false) := by
  rw [replace, ask_bind, paramAt, hold]
  cases position <;> rfl

theorem record_eq {winner : Text} {old : Param} (hold : Keyed.get? winner t.live = some old) (p : Param) :
    (record winner p).run t = .ok () (t.recordBeside winner p false) := by
  rw [record, ask_bind, paramAt, hold, recordBeside, hold]
  rfl

theorem takeOut_eq {key : Text} {p : Param} (hp : Keyed.get? key t.live = some p) :
    (takeOut key).run t = .ok p { t with live := Keyed.erase key t.live } := by
  rw [takeOut, ask_bind, paramAt, hp]
  rfl

theorem placeOf_eq {key : Text} (hkey : key ∈ t.order) : (placeOf key).run t = .ok (t.order.idxOf key) t := by
  rw [placeOf, EStateM.run, ask, if_pos hkey]

theorem evict_eq {loser : Text} {old : Param} (hold : Keyed.get? loser t.live = some old) (horder : loser ∈ t.order)
    (p : Param) (position : Option Position) : (evict loser p position).run t = .ok () (t.evict loser p position false) := by
  let record := addSuperseded old.asSuperseded false old.superseded
  let taken : ParamTable := { t with live := Keyed.erase loser t.live }
  let written : ParamTable := { taken with live := Keyed.put p.key { p with superseded := record } taken.live }
  have htaken : (takeOut loser).run t = .ok old taken := takeOut_eq hold
  have hwritten : (write p.key { p with superseded := record }).run taken = .ok () written := rfl
  have hplace : (placeOf loser).run written = .ok (t.order.idxOf loser) written := placeOf_eq horder
  rw [evict, bind_of_ok htaken, bind_of_ok hwritten, bind_of_ok hplace, ParamTable.evict, hold]
  cases (if position.bind Position.key? = some loser then none else position) <;> rfl

/-- A registration comes to what `ParamTable.register` says: the key that it looks up, because of what it found under
the key or in its chain, is live, and the order lists it. -/
theorem register_eq (ht : t.Ordered) {r : Registration} (hinitial : r.initial = false) :
    (register r).run t = .ok (t.register r).1 (t.register r).2 := by
  rw [register, current_bind, ParamTable.register, hinitial]
  dsimp only
  by_cases hmust : (r.mustExist && !t.isLive (t.paramOf r).key) = true
  · rw [if_pos hmust, if_pos hmust]
    rfl
  · rw [if_neg hmust, if_neg hmust]
    cases hover : t.override? (t.paramOf r).key with
    | none =>
      cases hold : Keyed.get? (t.paramOf r).key t.live with
      | none =>
        have hdead : t.isLive (t.paramOf r).key = false := by simp [isLive, Keyed.has, hold]
        rw [hdead]
        rfl
      | some old =>
        have hlive : t.isLive (t.paramOf r).key = true := isLive_iff.mpr ⟨old, hold⟩
        rw [hlive]
        cases r.overwrite with
        | false => rfl
        | true => exact bind_of_ok (replace_eq hold r.position)
    | some override =>
      cases hwrite : r.overwrite with
      | false => cases override <;> rfl
      | true =>
        cases override with
        | overridden winner =>
          obtain ⟨hwinner, -⟩ := override?_eq_overridden hover
          obtain ⟨old, hold⟩ := isLive_iff.mp hwinner
          exact bind_of_ok (record_eq hold (t.paramOf r))
        | overrides loser =>
          obtain ⟨hloser, -⟩ := override?_eq_overrides hover
          obtain ⟨old, hold⟩ := isLive_iff.mp hloser
          exact bind_of_ok (evict_eq hold ((ht.mem_iff loser).mpr hloser) (t.paramOf r) r.position)

/-- A registration is entered unless there is no key for it, which is found out first. -/
theorem enter_eq (ht : t.Ordered) {r : Registration} (hinitial : r.initial = false) :
    (enter r).run t = outcome t (t.enter r) := by
  rw [enter, ParamTable.enter]
  dsimp only
  split
  · rw [ask_bind]
    cases t.expectFreeKey with
    | error fault => rfl
    | ok key => exact register_eq ht hinitial
  · exact register_eq ht hinitial

theorem delete_eq (ht : t.Ordered) (key : Text) :
    (delete key).run t = outcome t (.ok (if t.isLive key then (true, t.erase key) else (false, t))) := by
  rw [delete, current_bind]
  split
  · rename_i hlive
    obtain ⟨p, hp⟩ := isLive_iff.mp hlive
    let taken : ParamTable := { t with live := Keyed.erase key t.live }
    have hplace : (placeOf key).run taken = .ok (t.order.idxOf key) taken := placeOf_eq ((ht.mem_iff key).mpr hlive)
    have horder : t.order.erase key = t.order.eraseIdx (t.order.idxOf key) := List.erase_eq_eraseIdx_of_idxOf rfl
    rw [bind_of_ok (takeOut_eq hp), bind_of_ok hplace, erase, horder]
    rfl
  · rfl

end Steps

/-- A call, step by step, comes to what `call` says, and where it fails, the table is the one before. -/
theorem steps_eq (ht : t.Ordered) (edit : Edit) : edit.steps.run t = outcome t (t.call edit) := by
  cases edit with
  | insert key value overwrite position =>
    have hrest : ∀ k : Text, (do
        let value ← ask fun _ => Value.expectText "value".toList value
        let position ← ask fun _ => Position.ofValue position
        Steps.enter { key := k, value, overwrite, position } : Steps Bool).run t =
        outcome t (do
          let value ← Value.expectText "value".toList value
          let position ← Position.ofValue position
          t.enter { key := k, value, overwrite, position }) := by
      intro k
      exact Steps.ask_bind_eq fun v => Steps.ask_bind_eq fun place => Steps.enter_eq ht rfl
    cases key with
    | null => exact hrest []
    | _ => exact Steps.ask_bind_eq hrest
  | update key value =>
    exact Steps.ask_bind_eq fun k => Steps.ask_bind_eq fun v => Steps.enter_eq ht rfl
  | delete key resolved =>
    refine Steps.ask_bind_eq fun k => ?_
    rw [Steps.current_bind]
    exact Steps.delete_eq ht (if resolved then t.resolve k else k)
  | copy =>
    rw [Edit.steps, Steps.ask_bind, call]
    cases t.copy <;> rfl

/-- Where the order does not list a live key, its deletion fails when the key is gone already. -/
example : (Edit.delete (.text ['a']) false).steps.run ⟨[(['a'], ⟨['a'], [], false, [], .null⟩)], [], []⟩ =
    .error (.missingField ['a']) ⟨[], [], []⟩ := rfl

theorem getSteps_eq (t : ParamTable) (key : Value) (resolved : Bool) :
    (getSteps key resolved).run t = outcome t ((fun found => (found, t)) <$> t.get key resolved) := by
  rw [getSteps, Steps.ask_bind, get]
  cases Value.expectText "key".toList key <;> rfl

theorem outcome_eq_error {result : Except Fault (α × ParamTable)} {fault : Fault}
    (h : outcome t result = .error fault u) : result = .error fault ∧ u = t := by
  cases result with
  | error f =>
    injection h with hfault htable
    exact ⟨congrArg _ hfault, htable.symm⟩
  | ok answer => injection h

theorem outcome_eq_ok {result : Except Fault (α × ParamTable)} {a : α} (h : outcome t result = .ok a u) :
    result = .ok (a, u) := by
  cases result with
  | error fault => injection h
  | ok answer =>
    injection h with hanswer htable
    rw [← hanswer, ← htable]

/-- The table that is left after steps, whether they failed or not. -/
def left : EStateM.Result Fault ParamTable α → ParamTable
  | .ok _ u => u
  | .error _ u => u

/-- The table after calls one after the other, each with all that its steps have done. -/
def runSteps (t : ParamTable) (edits : List Edit) : ParamTable :=
  edits.foldl (fun t edit => left (edit.steps.run t)) t

theorem left_steps (ht : t.Ordered) (edit : Edit) : left (edit.steps.run t) = t.after edit := by
  rw [steps_eq ht, after]
  cases t.call edit <;> rfl

/-- Tables that calls lead to step by step are those that they lead to. -/
theorem Reached.runSteps_eq {chains : List (List Text)} (hdisjoint : chains.Pairwise List.Disjoint)
    (htrim : TrimmedChains chains) (ht : Reached chains t) (edits : List Edit) : t.runSteps edits = t.run edits := by
  induction edits generalizing t with
  | nil => rfl
  | cons edit rest ih =>
    have hleft := left_steps (ht.consistent hdisjoint).ordered edit
    rw [runSteps, List.foldl_cons, hleft]
    exact ih (ht.after htrim edit)

/-! ## Refused calls -/

/-- A registration that must not overwrite, or wants a live key, and is answered with false leaves the table. The one
branch that puts a value on record with this answer is out of its reach. -/
theorem register_eq_self (ht : t.Consistent) (hdisjoint : t.chains.Pairwise List.Disjoint) {r : Registration}
    (hr : r.overwrite = false ∨ r.mustExist = true) (h : (t.register r).1 = false) : (t.register r).2 = t := by
  obtain ⟨-, hsame⟩ | ⟨hrefuses, -, winner, hover, -⟩ := register_of_false ht hdisjoint h
  · exact hsame
  · refine absurd ?_ hrefuses
    obtain hwrite | hmust := hr
    · exact Or.inr ⟨hwrite, Or.inl (by simp [hover])⟩
    · refine Or.inl ⟨hmust, Bool.eq_false_iff.mpr fun hlive => ?_⟩
      simp [ht.override?_eq_none hlive] at hover

/-- Whether two tables have the same keys in the same order, with parameters of the same name and record. -/
structure KeepsKeys (t u : ParamTable) : Prop where
  order_eq : u.order = t.order
  keys_eq : Keyed.keys u.live = Keyed.keys t.live
  named : ∀ key, (Keyed.get? key u.live).map Param.key = (Keyed.get? key t.live).map Param.key
  records : ∀ key, (Keyed.get? key u.live).map Param.superseded = (Keyed.get? key t.live).map Param.superseded

theorem KeepsKeys.refl (t : ParamTable) : t.KeepsKeys t := ⟨rfl, rfl, fun _ => rfl, fun _ => rfl⟩

theorem keepsKeys_replaceLive {p old : Param} (hold : Keyed.get? p.key t.live = some old) (hname : old.key = p.key) :
    t.KeepsKeys (t.replaceLive old p none false) where
  order_eq := rfl
  keys_eq := Keyed.keys_put_of_mem (Keyed.mem_keys_of_get? hold) _
  named key := by
    by_cases hkey : p.key = key
    · simp [replaceLive, ← hkey, hold, hname]
    · simp [replaceLive, hkey]
  records key := by
    by_cases hkey : p.key = key
    · simp [replaceLive, ← hkey, hold]
    · simp [replaceLive, hkey]

/-- A registration that wants a live key keeps all keys: beside a live key there is no other one to give way or to have
priority. -/
theorem keepsKeys_register (ht : t.Consistent) {r : Registration} (hmust : r.mustExist = true)
    (hposition : r.position = none) (hinitial : r.initial = false) : t.KeepsKeys (t.register r).2 := by
  cases hlive : t.isLive (t.paramOf r).key with
  | false =>
    rw [register_of_refuses (Or.inl ⟨hmust, hlive⟩)]
    exact KeepsKeys.refl t
  | true =>
    have halone := ht.override?_eq_none hlive
    obtain ⟨-, hrun⟩ | ⟨-, hnew, -⟩ | ⟨old, -, hold, hrun⟩ | ⟨winner, hover, -⟩ | ⟨loser, hover, -⟩ := t.register_cases r
    · rw [hrun]
      exact KeepsKeys.refl t
    · simp [isLive, Keyed.has, hnew] at hlive
    · rw [hrun, hposition, hinitial]
      exact keepsKeys_replaceLive hold (ht.fits _ old hold).key_eq
    · simp [halone] at hover
    · simp [halone] at hover

/-- Whether calls on a table that are refused, with a fault or with their answer, leave it as it is, step by step, and
updates keep its keys. -/
structure UnchangedIfRefused (t : ParamTable) : Prop where
  /-- The steps are those of the calls. -/
  steps : ∀ edit : Edit, edit.steps.run t = outcome t (t.call edit)
  failed : ∀ (edit : Edit) fault u, edit.steps.run t = .error fault u → u = t
  lookup : ∀ key resolved, (getSteps key resolved).run t = outcome t ((fun found => (found, t)) <$> t.get key resolved)
  inserted : ∀ key value position u, (Edit.insert key value false position).steps.run t = .ok false u → u = t
  updated : ∀ key value u, (Edit.update key value).steps.run t = .ok false u → u = t
  deleted : ∀ key resolved u, (Edit.delete key resolved).steps.run t = .ok false u → u = t
  keys : ∀ key value answer u, (Edit.update key value).steps.run t = .ok answer u → t.KeepsKeys u

theorem Consistent.unchangedIfRefused (ht : t.Consistent) (hdisjoint : t.chains.Pairwise List.Disjoint) :
    t.UnchangedIfRefused := by
  have hsteps := steps_eq ht.ordered
  constructor
  case steps => exact hsteps
  case failed =>
    intro edit fault u h
    rw [hsteps] at h
    exact (outcome_eq_error h).2
  case lookup => exact getSteps_eq t
  case inserted =>
    intro key value position u h
    rw [hsteps] at h
    obtain ⟨k, v, place, -, -, -, hresult⟩ := insert_eq_ok (outcome_eq_ok h)
    let r : Registration := { key := k, value := v, overwrite := false, position := place }
    have hanswer : (t.register r).1 = false := (congrArg Prod.fst hresult).symm
    exact (congrArg Prod.snd hresult).trans (register_eq_self ht hdisjoint (r := r) (Or.inl rfl) hanswer)
  case updated =>
    intro key value u h
    rw [hsteps] at h
    obtain ⟨k, v, -, -, hresult⟩ := update_eq_ok (outcome_eq_ok h)
    let r : Registration := { key := k, value := v, mustExist := true }
    have hanswer : (t.register r).1 = false := (congrArg Prod.fst hresult).symm
    exact (congrArg Prod.snd hresult).trans (register_eq_self ht hdisjoint (r := r) (Or.inr rfl) hanswer)
  case deleted =>
    intro key resolved u h
    rw [hsteps] at h
    obtain ⟨k, -, hresult⟩ := delete_eq_ok (outcome_eq_ok h)
    generalize (if resolved = true then t.resolve k else k) = found at hresult
    split at hresult
    · simp at hresult
    · exact congrArg Prod.snd hresult
  case keys =>
    intro key value answer u h
    rw [hsteps] at h
    obtain ⟨k, v, -, -, hresult⟩ := update_eq_ok (outcome_eq_ok h)
    have hu : u = (t.register { key := k, value := v, mustExist := true }).2 := congrArg Prod.snd hresult
    rw [hu]
    exact keepsKeys_register ht rfl rfl rfl

/-- In a table that was made of seeds and chains that do not meet, after whatever calls with whatever values, a call
that fails leaves everything as it is, although its steps would leave what they had done before. So do an insertion
that must not overwrite, an update and a deletion with the answer that nothing was done. An update never changes which
keys there are, their order or their records. -/
theorem unchangedIfRefused_runSteps {seeds hierarchies : Value} {chains : List (List Text)}
    (hchains : readChains hierarchies = .ok chains) (hdisjoint : chains.Pairwise List.Disjoint)
    (h : ofValues seeds hierarchies = .ok t) (edits : List Edit) :
    t.runSteps edits = t.run edits ∧ (t.runSteps edits).UnchangedIfRefused := by
  obtain ⟨read, hread, ht⟩ := exists_reached_of_ofValues h
  obtain rfl : chains = read := Except.ok.inj (hchains.symm.trans hread)
  have hsame := ht.runSteps_eq hdisjoint (trimmedChains_readChains hchains) edits
  have hreached := reached_run_of_ofValues hchains h edits
  have hkept : (t.run edits).chains.Pairwise List.Disjoint := hreached.chains_eq.symm ▸ hdisjoint
  exact ⟨hsame, hsame.symm ▸ (hreached.consistent hdisjoint).unchangedIfRefused hkept⟩

/-- An update under a key of priority beside a live key of its chain, and an insertion at a place that there is not. -/
theorem unchangedIfRefused_runSteps_besideLive :
    ∃ t, t = (empty pairedChains).runSteps [insertEmpty ['a'], insertEmpty ['x']] ∧ t.order = [['a'], ['x']] ∧
      t.UnchangedIfRefused ∧
      (Edit.update (.text ['b']) (.text ['1'])).steps.run t = .ok false t ∧
      ∃ fault, (Edit.insert (.text ['b']) (.text ['1']) true (.text "middle".toList)).steps.run t = .error fault t := by
  have hread : readChains (chainsValue pairedChains) = .ok pairedChains := rfl
  have hdisjoint : pairedChains.Pairwise List.Disjoint := by simp [pairedChains, List.Disjoint]
  have hmade : ofValues (.list []) (chainsValue pairedChains) = .ok (empty pairedChains) := rfl
  obtain ⟨-, hunchanged⟩ := unchangedIfRefused_runSteps hread hdisjoint hmade [insertEmpty ['a'], insertEmpty ['x']]
  exact ⟨_, rfl, rfl, hunchanged, rfl, _, rfl⟩

end PageMarkup.ParamTable
