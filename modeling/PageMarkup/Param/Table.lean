import PageMarkup.Keyed
import PageMarkup.Param.Basic

/-!
# Tables of parameters

The parameters of a template by their keys, in the order in which they are written. Keys may be tied into
hierarchies, chains of keys that mean the same, where a later key has priority: of the keys of one chain one
is live at a time, and the values of the others are kept on record as superseded. `register` is the one way
in, for seeds, insertions and updates alike.
-/
namespace PageMarkup

/-- How a key relates to a live key of its chain. -/
inductive Override where
  /-- The key has priority over the live one. -/
  | overrides (live : Text)
  /-- The live key has priority. -/
  | overridden (live : Text)
  deriving DecidableEq

/-- The live parameters by their keys, the order in which they are written, and the chains of keys. -/
structure ParamTable where
  live : Keyed Text Param
  order : List Text
  chains : List (List Text)

/-- A parameter to be registered, and under what conditions. -/
structure Registration where
  key : Text
  value : Text
  overwrite : Bool := true
  position : Option Position := none
  /-- Whether only a key that is live already is registered. -/
  mustExist : Bool := false
  /-- Whether the parameter is one of those that the table begins with. -/
  initial : Bool := false
  source : Value := .null

namespace ParamTable

def empty (chains : List (List Text) := []) : ParamTable := ⟨[], [], chains⟩

def isLive (t : ParamTable) (key : Text) : Bool := Keyed.has key t.live

def chainOf? (t : ParamTable) (key : Text) : Option (List Text) := t.chains.find? (·.contains key)

/-- How the key relates to the first other live key of its chain. -/
def override? (t : ParamTable) (key : Text) : Option Override := do
  let chain ← t.chainOf? key
  let (other, _) ← t.live.find? fun entry => entry.1 ≠ key && chain.contains entry.1
  return if chain.idxOf other < chain.idxOf key then .overrides other else .overridden other

/-- The first number from `n` on that is not among those used, after `bound` steps at most. -/
def firstFree (used : List Nat) : Nat → Nat → Nat
  | 0, n => n
  | bound + 1, n => if used.contains n then firstFree used bound (n + 1) else n

/-- The least positive number that no live key denotes. -/
def leastFree (t : ParamTable) : Nat :=
  let used := t.live.filterMap fun entry => keyNumber? entry.1
  firstFree used used.length 1

/-- The key for an unnamed parameter: the numeral of the least number that is free. -/
def freeKey (t : ParamTable) : Text := Text.ofNat t.leastFree

/-! ## Order -/

/-- The order with the key at a position. Without a position, and beside a key that is not there, a new key
comes last and another one stays where it is. -/
def placeKey (key : Text) (position : Option Position) (isNew : Bool) (order : List Text) : List Text :=
  let others := order.filter fun k => !decide (k = key)
  let unplaced := if isNew then order ++ [key] else order
  match position with
  | none => unplaced
  | some .start => key :: others
  | some .finish => others ++ [key]
  | some (.before ref) =>
    if ref ≠ key && others.contains ref then others.insertIdx (others.idxOf ref) key else unplaced
  | some (.after ref) =>
    if ref ≠ key && others.contains ref then others.insertIdx (others.idxOf ref + 1) key else unplaced

/-! ## Registration -/

/-- The list with one more superseded value, which is not recorded twice unless `repeatable` holds. -/
def addSuperseded (d : Superseded) (repeatable : Bool) (ds : List Superseded) : List Superseded :=
  if repeatable || !ds.contains d then ds ++ [d] else ds

/-- The table with a parameter under a key that is not live. -/
def addNew (t : ParamTable) (p : Param) (position : Option Position) : ParamTable :=
  { t with live := Keyed.put p.key p t.live, order := placeKey p.key position true t.order }

/-- The table with a parameter in place of the one under the same key. An initial parameter moves to the end
and leaves what it replaces on record; a later one keeps the text it was read from if it changes nothing. -/
def replaceLive (t : ParamTable) (old : Param) (p : Param) (position : Option Position) (initial : Bool) :
    ParamTable :=
  if initial then
    { t with
      live := Keyed.put p.key { p with superseded := old.superseded ++ [old.asSuperseded] } t.live
      order := t.order.erase p.key ++ [p.key] }
  else
    let source := if old.value = p.value && old.unnamed = p.unnamed then old.source else p.source
    { t with
      live := Keyed.put p.key { p with superseded := old.superseded, source } t.live
      order := if position.isSome then placeKey p.key position false t.order else t.order }

/-- The table with the parameter on record beside the live one that has priority. -/
def recordBeside (t : ParamTable) (live : Text) (p : Param) (initial : Bool) : ParamTable :=
  match Keyed.get? live t.live with
  | some winner =>
    let winner := { winner with superseded := addSuperseded p.asSuperseded initial winner.superseded }
    { t with live := Keyed.put live winner t.live }
  | none => t

/-- The table with the parameter in place of one of lower priority, which stays on record. -/
def evict (t : ParamTable) (loser : Text) (p : Param) (position : Option Position) (initial : Bool) : ParamTable :=
  let record := match Keyed.get? loser t.live with
    | some old => addSuperseded old.asSuperseded initial old.superseded
    | none => []
  let position := if position.bind Position.key? = some loser then none else position
  let index := t.order.idxOf loser
  { t with
    live := Keyed.put p.key { p with superseded := record } (Keyed.erase loser t.live)
    order := if initial || position.isSome then placeKey p.key position true (t.order.eraseIdx index)
      else t.order.set index p.key }

/-- The parameter that a registration gives rise to: an empty key stands for an unnamed parameter, which gets a free
key, and the value of a named one is trimmed. -/
def paramOf (t : ParamTable) (r : Registration) : Param :=
  let trimmed := Text.trim r.key
  if trimmed.isEmpty then { key := t.freeKey, value := r.value, unnamed := true, source := r.source }
  else { key := trimmed, value := Text.trim r.value, unnamed := false, source := r.source }

/-- The table after a registration, and whether the given value is live then. -/
def register (t : ParamTable) (r : Registration) : Bool × ParamTable :=
  let p := t.paramOf r
  if r.mustExist && !t.isLive p.key then (false, t)
  else
    match t.override? p.key, Keyed.get? p.key t.live with
    | none, none => (true, t.addNew p r.position)
    | none, some old =>
      if r.overwrite then (true, t.replaceLive old p r.position r.initial) else (false, t)
    | some (.overridden live), _ =>
      if r.overwrite then (false, t.recordBeside live p r.initial) else (false, t)
    | some (.overrides loser), _ =>
      if r.overwrite then (true, t.evict loser p r.position r.initial) else (false, t)

def addSeed (t : ParamTable) (seed : Seed) : ParamTable :=
  (t.register { key := seed.key.getD [], value := seed.value, initial := true, source := seed.source }).2

/-- The table of the seeds, with the chains of keys. -/
def ofSeeds (seeds : List Seed) (chains : List (List Text)) : ParamTable := seeds.foldl addSeed (empty chains)

/-! ## Values of callers -/

/-- The chains that a value stands for, with trimmed keys. -/
def readChains (hierarchies : Value) : Except Fault (List (List Text)) :=
  if hierarchies.truthy then do
    (← hierarchies.expectItems).mapM fun chain =>
      match chain with
      | .text s => .error (.invalidHierarchy (Text.quoted s))
      | chain => do
        (← chain.expectItems).mapM fun key => Text.trim <$> Value.expectText "hierarchy key".toList key
  else .ok []

/-- The key for an unnamed parameter, unless a live key is too long a numeral to be read. -/
def expectFreeKey (t : ParamTable) : Except Fault Text :=
  match t.live.find? fun entry => isOverlongKey entry.1 with
  | some entry => .error (.noNumeral entry.1)
  | none => .ok t.freeKey

/-- Registers a parameter. An unnamed one needs a free key. -/
def enter (t : ParamTable) (r : Registration) : Except Fault (Bool × ParamTable) := do
  if (Text.trim r.key).isEmpty then discard t.expectFreeKey
  return t.register r

/-- The table with one more seed, if it has texts for its parts. -/
def enterSeed (t : ParamTable) (v : SeedValue) : Except Fault ParamTable := do
  let seed ← v.toSeed
  if (Text.trim (seed.key.getD [])).isEmpty then discard t.expectFreeKey
  return t.addSeed seed

/-- The table of seeds in the form of values, with the chains of keys. -/
def ofSeedValues (seeds : List SeedValue) (chains : List (List Text)) : Except Fault ParamTable :=
  seeds.foldlM enterSeed (empty chains)

/-- The table of the seeds that a value stands for. -/
def ofValues (seeds hierarchies : Value) : Except Fault ParamTable := do
  let chains ← readChains hierarchies
  (← seeds.expectItems).foldlM (fun t v => do t.enterSeed (← SeedValue.ofValue v)) (empty chains)

/-- The chains as a value that stands for them. -/
def chainsValue (chains : List (List Text)) : Value :=
  .list (chains.map fun chain => .list (chain.map .text))

/-- The copy of a table: the same parameters in the same order, with the chains read anew. -/
def copy (t : ParamTable) : Except Fault ParamTable := do
  return { t with chains := ← readChains (chainsValue t.chains) }

/-- Inserts a parameter or replaces one, and tells whether the value is live then. -/
def insert (t : ParamTable) (key value : Value) (overwrite : Bool := true) (position : Value := .null) :
    Except Fault (Bool × ParamTable) := do
  let key ← match key with
    | .null => .ok []
    | key => Value.expectText "key".toList key
  let value ← Value.expectText "value".toList value
  let position ← Position.ofValue position
  t.enter { key, value, overwrite, position }

/-- Replaces the value of a live parameter, and tells whether there was one. -/
def update (t : ParamTable) (key value : Value) : Except Fault (Bool × ParamTable) := do
  let key ← Value.expectText "key".toList key
  let value ← Value.expectText "value".toList value
  t.enter { key, value, mustExist := true }

/-- The live key of highest priority in the chain of the key, or the key itself. -/
def resolve (t : ParamTable) (key : Text) : Text :=
  match t.chainOf? key with
  | some chain => (chain.reverse.find? t.isLive).getD key
  | none => key

/-- The parameter under the key, or under the live key of its chain. -/
def find? (t : ParamTable) (key : Text) (resolved : Bool := false) : Option Param :=
  Keyed.get? (if resolved then t.resolve key else key) t.live

/-- The parameter under a key that a caller gives. -/
def get (t : ParamTable) (key : Value) (resolved : Bool := false) : Except Fault (Option Param) := do
  return t.find? (← Value.expectText "key".toList key) resolved

def erase (t : ParamTable) (key : Text) : ParamTable :=
  { t with live := Keyed.erase key t.live, order := t.order.erase key }

/-- Deletes a parameter, and tells whether there was one. -/
def delete (t : ParamTable) (key : Value) (resolved : Bool := false) : Except Fault (Bool × ParamTable) := do
  let key ← Value.expectText "key".toList key
  let key := if resolved then t.resolve key else key
  return if t.isLive key then (true, t.erase key) else (false, t)

/-- The parameter of a key in the order; a key that is not live any more has none. -/
def paramAt (t : ParamTable) (key : Text) : Except Fault Param :=
  match Keyed.get? key t.live with
  | some p => .ok p
  | none => .error (.missingField key)

/-- The parameters in the order in which they are written. -/
def inOrder (t : ParamTable) : Except Fault (List Param) := t.order.mapM t.paramAt

/-- Whether one of the entries has a key that meets the pattern and a value that is as expected. -/
private def anyMatch (p : Pattern) (expected : Value) : Keyed Text Param → Except Fault Bool
  | [] => .ok false
  | (key, param) :: rest => do
    if p.search key then
      if ← matchesExpected (some param.value) expected then return true
    anyMatch p expected rest

/-- Whether there is a parameter with a key and a value as expected. -/
def has (t : ParamTable) (key expected : Value) : Except Fault Bool :=
  match key with
  | .text key =>
    if key.isEmpty then .ok false
    else
      match Keyed.get? key t.live with
      | some param => matchesExpected (some param.value) expected
      | none => .ok false
  | .leaf (.pattern p) => anyMatch p expected t.live
  | key => .error (.found .keyQuery key)

/-- The parameters that a predicate is asked about, in the order in which they are written: up to the first
one for which it holds. The answer tells whether there is one. -/
def hasWhere (t : ParamTable) (holds : Text → Param → Bool) : Except Fault (List (Text × Param) × Bool) :=
  go t.order
where
  go : List Text → Except Fault (List (Text × Param) × Bool)
  | [] => .ok ([], false)
  | key :: rest => do
    let param ← t.paramAt key
    if holds key param then return ([(key, param)], true)
    let (asked, found) ← go rest
    return ((key, param) :: asked, found)

/-- Whether two tables have the same order and the same parameters, wherever these were read from. -/
def same (t u : ParamTable) : Bool :=
  t.order == u.order && t.live.length == u.live.length &&
    t.live.all fun entry =>
      match Keyed.get? entry.1 u.live with
      | some param => entry.2.same param
      | none => false

def shown (t : ParamTable) : Except Fault Text := do
  let params ← t.inOrder
  return "<TemplateParams[".toList ++
    Text.joinWith [',', ' '] (params.map fun p => p.key ++ ['='] ++ Text.quoted p.value) ++ "]>".toList

end ParamTable

end PageMarkup
