import PageMarkup.Fault
import PageMarkup.Text.Direction

/-!
# Reading titles

`Title.read` turns a text into a title of a site. Blanks and underscores are collapsed, a leading colon and a
fragment are taken off, one prefix is recognized as a namespace or as another wiki, and the first letter
becomes a capital where the namespace asks for it. Texts that no page can have as its name are refused.
-/
namespace PageMarkup

/-- Whether a title may not hold the character. -/
def isIllegalInTitle (c : Char) : Bool :=
  c.toNat < 0x20 || c.toNat = 0x7F || ['<', '>', '[', ']', '{', '}', '|', '\ufffd'].contains c

/-- Whether the text is a path that starts from the page it stands on. -/
def isRelativePath (s : Text) : Bool :=
  s == ['.'] || s == ['.', '.'] ||
    Text.startsWith ['.', '/'] s || Text.startsWith ['.', '.', '/'] s ||
    Text.includes ['/', '.', '/'] s || Text.includes ['/', '.', '.', '/'] s ||
    Text.endsWith ['/', '.'] s || Text.endsWith ['/', '.', '.'] s

/-- The largest number of bytes of a page's name. -/
def maxTitleBytes : Nat := 255

namespace Title

/-- The text of a title with single spaces between its words, and without direction marks. -/
def tidy (given : Text) : Text := Text.collapse (Text.replaceChar '_' ' ' (Text.clean given))

/-- The possible prefix of a title, and the text behind its colon. -/
def cutLead (s : Text) : Option (Text × Text) :=
  match Text.cutAtFirst ':' s with
  | (_ :: _, none) | ([], _) => none
  | (lead, some behind) => some (Text.trimEnd lead, Text.trimStart behind)

/-- What a prefix says of the rest of the title. -/
inductive Lead where
  | page
  | ofNamespace (id : Int)
  | ofInterwiki (label : Text)

/-- The prefix of a title, as the site knows it, and the rest. Namespaces go before other wikis. -/
def resolveLead (site : Site) (s : Text) : Lead × Text :=
  match cutLead s with
  | none => (.page, s)
  | some (lead, rest) =>
    match site.namespaceId? lead with
    | some id => (.ofNamespace id, rest)
    | none =>
      match site.interwiki? lead with
      | some iw => (.ofInterwiki (Text.lower iw.label), rest)
      | none => (.page, s)

/-- What is wrong with the name of a page, behind the prefix and with or without a fragment. -/
def flaw? (lead : Lead) (main fragment : Text) : Option TitleFlaw :=
  if main.isEmpty then
    match lead with
    | .ofNamespace _ => some .bareNamespace
    | .ofInterwiki label => if fragment.isEmpty && label.isEmpty then some .empty else none
    | .page => if fragment.isEmpty then some .empty else none
  else if Text.includes ['~', '~', '~'] main then some .signature
  else if isRelativePath main then some .relativePath
  else if maxTitleBytes < Text.utf8Length main then some .tooLong
  else none

/-- The name of a page with its first letter a capital where the namespace asks for it. -/
def applyCase (site : Site) (namespaceId : Int) (interwiki main : Text) : Text :=
  if interwiki.isEmpty then
    match site.namespace? namespaceId with
    | some space => if space.capitalizes then Text.capitalize main else main
    | none => main
  else main

/-- The text in front of the number sign, and the fragment behind it. -/
def cutFragment (s : Text) : Text × Text :=
  match Text.cutAtFirst '#' s with
  | (_, none) => (s, [])
  | (before, some behind) => (Text.trimEnd before, Text.trim behind)

/-- The namespace and the other wiki that a title lies in; without a prefix the namespace is `fallback`. -/
def Lead.destination (site : Site) (fallback : Int) : Lead → Int × Text
  | page => (fallback, [])
  | ofNamespace id => (id, [])
  | ofInterwiki label => (site.mainId, label)

/-- The title that the text `given` denotes on the site; without a prefix it belongs to the namespace
`fallback`, or to the main one if it has a leading colon. -/
def read (site : Site) (given : Text) (fallback : Int) : Except Fault Title :=
  let tidied := tidy given
  let leadingColon := Text.startsWith [':'] tidied
  let body := if leadingColon then Text.trimStart (tidied.drop 1) else tidied
  let fallback := if leadingColon then site.mainId else fallback
  let (body, fragment) := cutFragment body
  if body.any isIllegalInTitle then .error (.invalidTitle given .illegalCharacters)
  else
    let (lead, main) := resolveLead site body
    match flaw? lead main fragment with
    | some flaw => .error (.invalidTitle given flaw)
    | none =>
      let (namespaceId, interwiki) := lead.destination site fallback
      .ok { site, namespaceId, fragment, interwiki, leadingColon
            main := applyCase site namespaceId interwiki main }

/-- The title that a value denotes: a text is read for the site, and a title is read again, for the site if
there is one and for its own otherwise. -/
def ofValue (site : Option Site) (v : Value) (fallback : Option Int := none) : Except Fault Title :=
  match v with
  | .leaf (.title t) =>
    let site := site.getD t.site
    read site (t.render true true) (fallback.getD site.mainId)
  | .text s =>
    match site with
    | some site => read site s (fallback.getD site.mainId)
    | none => .error (.siteRequired .parsing)
  | v => .error (.ofNoTitle v)

/-- Whether a text says itself in which namespace or on which wiki the page lies, by a leading colon or a prefix. -/
def tellsPlace (site : Site) (given : Text) : Bool :=
  let tidied := tidy given
  Text.startsWith [':'] tidied ||
    match (resolveLead site (cutFragment tidied).1).1 with
    | .page => false
    | .ofNamespace _ | .ofInterwiki _ => true

/-- The title that a value denotes in a namespace which may be given by any value. Something by which no namespace can be
looked up does no harm if the text itself says where the page lies, or if the page has no name. -/
def ofValueIn (site : Option Site) (v : Value) (place : Plain) : Except Fault Value := do
  let t ← ofValue site v place.integer?
  let given := match v with
    | .leaf (.title u) => u.render true true
    | .text s => s
    | _ => []
  match h : place.unhashable? with
  | none => return .title t
  | some kind =>
    if tellsPlace t.site given then return .title t
    else if t.main.isEmpty then
      return .leaf (.unplaced { site := t.site, place, fragment := t.fragment, kind, unhashable := h })
    else .error (.notHashable kind)

end Title

end PageMarkup
