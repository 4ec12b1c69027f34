import PageMarkup.Hook.Table
import PageMarkup.Site.Description

/-!
# Listed function hooks

Magic words are listed with names of any form. Only those that are functions have to be texts; the others are passed
over.
-/
namespace PageMarkup

/-- The text that an alias of a function must be. -/
def expectAlias : Plain → Except Fault Text
  | .text s => .ok s
  | d => .error (.notJoinable d.kind)

/-- The magic word that a listed one is, if it is one of the functions. -/
def ListedWord.function? (functions : List Plain) (word : ListedWord) : Except Fault (Option MagicWord) := do
  let name ← word.name.expectHashable
  if functions.any (·.same name) then
    let others ← Description.itemsIn word.aliases
    let aliases ← (others.filter fun other => !other.same name).mapM expectAlias
    return some { name := ← Description.textOf name, aliases, caseSensitive := word.caseSensitive }
  else return none

namespace HookTable

/-- The table of words all of which are functions. -/
def ofFunctions (words : List MagicWord) : HookTable := ofMagicWords words (words.map (·.name))

/-- The table of those listed words that are functions. -/
def ofListed (words : List ListedWord) (functions : List Plain) : Except Fault HookTable := do
  return ofFunctions ((← words.mapM (·.function? functions)).filterMap id)

/-- A magic word with its settings under the names that descriptions use. Its case setting is a truth value. -/
def readWord (entry : Plain) : Except Fault ListedWord := do
  let fs ← Description.entryFields entry
  return {
    name := ← Description.required "name".toList fs
    aliases := (fs.lookup "aliases".toList).getD (.list [])
    caseSensitive := ((fs.lookup "case-sensitive".toList).map Datum.truthy).getD false }

/-- The table of those words that are functions, both given as data. -/
def ofData (words functionHooks : Plain) : Except Fault HookTable := do
  let functions ← functionHooks.expectMembers
  let functionOf (entry : Plain) : Except Fault (Option MagicWord) := do (← readWord entry).function? functions
  return ofFunctions ((← (← Description.itemsIn words).mapM functionOf).filterMap id)

end HookTable

end PageMarkup
