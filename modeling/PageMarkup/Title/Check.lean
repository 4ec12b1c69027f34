import PageMarkup.Hook.Table
import PageMarkup.Title.Read

/-!
# Titles in their places

A title that is transcluded, linked to, or names an embedded file has to fit there. `transcluded` reads a
text in the namespace of templates and refuses function hooks; `linked`, `embedded` and `targeted` read the
titles of links.
-/
namespace PageMarkup.Title

/-- The title of a transcluded page. A text without a leading colon is read in the namespace of templates. -/
def transcluded (site : Option Site) (v : Value) : Except Fault Title := do
  let (site, written) ← match v with
    | .leaf (.title t) => .ok (some (site.getD t.site), t.renderKey true true)
    | .text s => .ok (site, s)
    | v => .error (.ofNoTitle v)
  let some site := site | .error (.siteRequired .templateTitle)
  if (site.hookTable.verify written).isSome then .error (.misplacedTitle v .functionHook)
  let (title, written) ← match v with
    | .text s =>
      let s := Text.clean s
      (·, s) <$> read site s (if Text.startsWith [':'] s then site.mainId else site.templateId)
    | v => (·, written) <$> ofValue (some site) v
  if title.main.isEmpty then .error (.invalidTitle written .nothingToTransclude)
  else if title.isExternal && !title.isTranscludable then .error (.misplacedTitle (.title title) .untranscludable)
  else .ok title

def linked (site : Option Site) (v : Value) : Except Fault Title :=
  match v with
  | .leaf (.title _) => ofValue site v
  | .text s =>
    match site with
    | some site => read site s site.mainId
    | none => .error (.siteRequired .linkTitle)
  | v => .error (.ofNoTitle v)

/-- The title of an embedded file: it is in the namespace of files, on the same wiki and without a leading
colon. -/
def embedded (site : Option Site) (v : Value) : Except Fault Title := do
  let title ← linked site v
  if title.isExternal then .error (.misplacedTitle (.title title) .interwikiFile)
  else if title.leadingColon then .error (.misplacedTitle (.title title) .colonFile)
  else if title.namespaceId ≠ title.site.fileId then .error (.misplacedTitle (.title title) .notFile)
  else .ok title

def targeted (site : Option Site) (v : Value) : Except Fault Title := do
  let title ← linked site v
  if title.namespaceId = title.site.fileId && !title.leadingColon then
    .error (.misplacedTitle (.title title) .file)
  else .ok title

end PageMarkup.Title
