import PageMarkup.Proofs.Node.Edits

/-!
# How nodes are made

A node is made by a caller, of a title or a hook and what goes with it, or of a record on a site. `Node.Made` has one
case for each maker, and `Node.Source` has the makers that take records.
-/
namespace PageMarkup.Node

/-- Whether one of the makers yields the node. -/
inductive Made : Node → Prop where
  | template {site : Option Site} {title params hierarchies : Value} {t : Template}
    (h : Template.create site title params hierarchies = .ok t) : Made (template t)
  | call {site : Option Site} {hook params : Value} {c : FunctionCall}
    (h : FunctionCall.create site hook params = .ok c) : Made (call c)
  | link {site : Option Site} {title display : Value} {l : PageLink}
    (h : PageLink.create site title display = .ok l) : Made (link l)
  | fileLink {site : Option Site} {title params : Value} {l : FileLink}
    (h : FileLink.create site title params = .ok l) : Made (fileLink l)
  | rawLink {site : Option Site} {title display : Value} {l : RawLink}
    (h : RawLink.create site title display = .ok l) : Made (rawLink l)
  | found {source : Source} {node : Node} (h : source.build = .ok node) : Made node

end PageMarkup.Node
