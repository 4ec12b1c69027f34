import PageMarkup.Site.Basic

/-!
# Titles

The title of a page: a namespace or the prefix of another wiki, the name of the page, and perhaps a fragment
that leads to a place on it. `render` puts the parts together again.
-/
namespace PageMarkup

/-- A title of a page, on the site that it was read for. -/
structure Title where
  site : Site
  namespaceId : Int
  /-- The name of the page, without prefixes. -/
  main : Text
  /-- The place on the page, without its number sign. -/
  fragment : Text
  /-- The prefix of the other wiki that the title leads to, in lower case, or nothing. -/
  interwiki : Text
  /-- Whether the title was written with a colon in front. -/
  leadingColon : Bool

namespace Title

/-- The name of the title's namespace; it is empty for the main namespace, for an unknown one and for one without a
name. -/
def namespaceName (t : Title) : Text :=
  if t.namespaceId = t.site.mainId then []
  else
    match t.site.namespace? t.namespaceId with
    | some space => space.name.getD []
    | none => []

def isExternal (t : Title) : Bool := !t.interwiki.isEmpty

/-- Whether the title leads to another wiki whose pages may be transcluded. -/
def isTranscludable (t : Title) : Bool :=
  t.isExternal &&
    match t.site.interwiki? t.interwiki with
    | some iw => iw.transcludes
    | none => false

/-- Whether the title names a file of its own site. -/
def isFile (t : Title) : Bool := t.namespaceId = t.site.fileId && !t.isExternal

/-- The full title. The leading colon, the fragment and the interwiki prefix are written if they are asked
for and the title has them. -/
def render (t : Title) (colon fragment : Bool) (interwiki : Bool := true) : Text :=
  let parts := (if interwiki && t.isExternal then [t.interwiki] else []) ++
    (if t.namespaceName.isEmpty then [] else [t.namespaceName]) ++ [t.main]
  (if colon && t.leadingColon then [':'] else []) ++ Text.joinWith [':'] parts ++
    (if fragment && !t.fragment.isEmpty then '#' :: t.fragment else [])

/-- The full title with underscores for spaces. -/
def renderKey (t : Title) (colon fragment : Bool) (interwiki : Bool := true) : Text :=
  Text.replaceChar ' ' '_' (t.render colon fragment interwiki)

/-- The title as it is written from a page in the given namespace. -/
def renderFrom (t : Title) (namespaceId : Int) : Text :=
  if t.namespaceId = namespaceId && !t.isExternal then t.main else t.render false false

def inText (t : Title) : Text := t.render false true

def shown (t : Title) : Text := "<Title[".toList ++ Text.quoted (t.render true true) ++ "]>".toList

/-- Whether two titles agree in all their parts, on whatever sites. -/
def same (t u : Title) : Bool :=
  t.interwiki == u.interwiki && t.namespaceId == u.namespaceId && t.main == u.main && t.fragment == u.fragment &&
    t.leadingColon == u.leadingColon

@[simp] theorem same_refl (t : Title) : t.same t = true := by simp [same]

end Title

/-- A title of a fragment alone that was given, for its namespace, something by which none can be looked up. It can be
made, because none is looked up for a page without a name, but neither be written nor be looked up itself. -/
structure UnplacedTitle where
  site : Site
  /-- What was given for the namespace. -/
  place : Plain
  /-- The place on the page, without its number sign. -/
  fragment : Text
  /-- The kind of the part of `place` by which nothing can be looked up. -/
  kind : Text
  unhashable : place.unhashable? = some kind

namespace UnplacedTitle

/-- Why the title cannot be written: its namespace is looked up for that. -/
def unwritable (t : UnplacedTitle) : Unwritable := .notHashable t.kind

/-- Whether two titles agree in all their parts, on whatever sites. -/
def same (t u : UnplacedTitle) : Bool := t.place.same u.place && t.fragment == u.fragment

end UnplacedTitle

end PageMarkup
