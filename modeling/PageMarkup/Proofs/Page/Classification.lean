import PageMarkup.Proofs.Page.BraceRoundTrip
import PageMarkup.Proofs.Page.LinkRoundTrip
import PageMarkup.Proofs.Param.Seeds
import PageMarkup.Proofs.Title.Check

/-!
# Which nodes a page has

Each record of a page gives rise to one node, of the kind that its title asks for. The title is checked once to choose
the kind and again by the node itself; the second check never fails, since it asks for no more than the first. For a
function call the hook has to be found in the head as well: the title is what is left of the head when some characters
are dropped, so it is there character by character.
-/
namespace PageMarkup

/-! ## Kinds -/

/-- The kinds of nodes in double braces. -/
inductive BraceKind where
  | template
  | raw
  | call
  deriving DecidableEq

/-- The kinds of links. -/
inductive LinkKind where
  | page
  | file
  | raw
  deriving DecidableEq

def BraceNode.kind : BraceNode → BraceKind
  | template _ => .template
  | raw _ => .raw
  | call _ => .call

def LinkNode.kind : LinkNode → LinkKind
  | page _ => .page
  | file _ => .file
  | raw _ => .raw

/-- A record whose head can be cut behind the hook that its title begins with describes a function call. -/
theorem ScannedCall.exists_ofRecord_of_split {site : Site} {record : BraceRecord} {args : List Argument}
    {verified : VerifiedHook} {split : HookSplit} (hseeds : record.seeds = args.map Argument.toSeed)
    (hverified : site.hookTable.verify record.title = some verified)
    (hsplit : HookSplit.ofOrigin record.toOrigin verified.written = .ok split) :
    ∃ call, ofRecord (some site) record = .ok call := by
  have hvalues := Argument.mapM_positional args
  have hparams := Slots.ofValues_texts (split.firstParam :: args.map fun arg => arg.written.drop 1)
  unfold ofRecord
  dsimp only
  rw [hverified, hseeds]
  exact ⟨_, Outcome.bind_eq_ok.mpr ⟨split, hsplit, Outcome.bind_eq_ok.mpr ⟨_, hvalues,
    Outcome.bind_eq_ok.mpr ⟨_, hparams, rfl⟩⟩⟩⟩

section

variable {site : Site} {around skipped : List Scan.Span} {brace : Brace}

end

end PageMarkup
