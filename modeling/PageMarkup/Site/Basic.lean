import PageMarkup.Datum
import PageMarkup.Keyed
import PageMarkup.Text.Blank
import PageMarkup.Text.Case

/-!
# Sites

What the reading of titles and function hooks depends on: the namespaces of a wiki, the prefixes that lead
to other wikis, and its magic words. Names of namespaces are compared without regard to case, blanks and
underscores; `namespaceId?` knows a namespace by its name, its canonical name and its aliases, and a later
namespace wins a name that two of them have.
-/
namespace PageMarkup

/-- A namespace of a wiki, which may be without a name. Its `titleCase` is the case setting as the site's
description gives it. -/
structure Namespace where
  id : Int
  name : Option Text
  canonical : Option Text
  aliases : List (Option Text)
  titleCase : Plain

/-- The setting under which the first letter of a title is a capital. -/
def firstLetterSetting : Text := "first-letter".toList

/-- Whether the first letter of titles in the namespace is a capital. -/
def Namespace.capitalizes (space : Namespace) : Bool :=
  match space.titleCase with
  | .text setting => setting == firstLetterSetting
  | _ => false

/-- Every name that the namespace is known by. -/
def Namespace.names (space : Namespace) : List Text :=
  (space.name :: space.canonical :: space.aliases).filterMap fun name => name

/-- A prefix of titles that leads to another wiki. -/
structure Interwiki where
  label : Text
  url : Plain
  isLocal : Bool
  transcludes : Bool
  isLocalLink : Bool

/-- A word with a meaning of its own, and the other words that stand for it. -/
structure MagicWord where
  name : Text
  aliases : List Text
  caseSensitive : Bool

/-- A wiki, as far as titles and hooks depend on it. -/
structure Site where
  name : Plain
  namespaces : Keyed Int Namespace
  magicWords : List MagicWord
  functionHooks : List Text
  /-- The interwiki prefixes by their labels in lower case. -/
  interwikis : Keyed Text Interwiki

/-- The form in which names of namespaces are compared. -/
def normalizedName (name : Text) : Text := Text.lower (Text.collapse (Text.replaceChar '_' ' ' name))

namespace Site

/-- A site from the lists of its parts: of two namespaces with one id, and of two interwiki prefixes with one
label, the later one counts. -/
def ofParts (name : Plain) (spaces : List Namespace) (magicWords : List MagicWord) (functionHooks : List Text)
    (interwikis : List Interwiki) : Site where
  name := name
  namespaces := spaces.foldl (fun m space => Keyed.put space.id space m) []
  magicWords := magicWords
  functionHooks := functionHooks
  interwikis := interwikis.foldl (fun m iw => Keyed.put (Text.lower iw.label) iw m) []

/-- The ids of the namespaces by their normalized names. -/
def namespaceIds (site : Site) : Keyed Text Int :=
  site.namespaces.foldl
    (fun m entry => entry.2.names.foldl (fun m name => Keyed.put (normalizedName name) entry.2.id m) m) []

/-- The id of the namespace that the text names. -/
def namespaceId? (site : Site) (name : Text) : Option Int := Keyed.get? (normalizedName name) site.namespaceIds

def namespace? (site : Site) (id : Int) : Option Namespace := Keyed.get? id site.namespaces

/-- The id of the first namespace with the canonical name, or `fallback`. -/
def canonicalId (site : Site) (canonical : Text) (fallback : Int) : Int :=
  match site.namespaces.find? fun entry => entry.2.canonical == some canonical with
  | some entry => entry.2.id
  | none => fallback

/-- The id of the main namespace, whose name is empty. -/
def mainId (site : Site) : Int := (Keyed.get? [] site.namespaceIds).getD 0

def fileId (site : Site) : Int := site.canonicalId "File".toList 6

def templateId (site : Site) : Int := site.canonicalId "Template".toList 10

/-- The interwiki prefix that the text names. -/
def interwiki? (site : Site) (label : Text) : Option Interwiki :=
  Keyed.get? (Text.lower (Text.trim label)) site.interwikis

def shown (site : Site) : Except Unwritable Text := do
  return "<Site[".toList ++ (← site.name.shown) ++ "]>".toList

end Site

end PageMarkup
