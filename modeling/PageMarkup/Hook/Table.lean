import PageMarkup.Site.Basic
import PageMarkup.Text.CaseFold

/-!
# Function hooks

A parser function is called by its hook, such as the text `if` behind a number sign and in front of a colon.
Each magic word that is a function has one canonical hook and several spellings. `HookTable.verify` takes the
candidate that a text begins with and looks for the first entry with a spelling that matches it.
-/
namespace PageMarkup

/-- The functions whose canonical hooks have no number sign. -/
def plainFunctions : List Text :=
  ["ns", "nse", "urlencode", "lcfirst", "ucfirst", "lc", "uc",
   "localurl", "localurle", "fullurl", "fullurle", "canonicalurl", "canonicalurle",
   "formatnum", "grammar", "gender", "plural", "formal", "bidi", "numberingroup", "language",
   "padleft", "padright", "anchorencode", "defaultsort", "filepath",
   "pagesincategory", "pagesize", "protectionlevel", "protectionexpiry",
   "pagename", "pagenamee", "fullpagename", "fullpagenamee", "subpagename", "subpagenamee",
   "rootpagename", "rootpagenamee", "basepagename", "basepagenamee", "talkpagename", "talkpagenamee",
   "subjectpagename", "subjectpagenamee",
   "pageid", "revisionid", "revisionday", "revisionday2", "revisionmonth", "revisionmonth1", "revisionyear",
   "revisiontimestamp", "revisionuser", "cascadingsources",
   "namespace", "namespacee", "namespacenumber", "talkspace", "talkspacee", "subjectspace", "subjectspacee",
   "numberofarticles", "numberoffiles", "numberofusers", "numberofactiveusers", "numberofpages",
   "numberofadmins", "numberofedits",
   "bcp47", "dir", "interwikilink", "interlanguagelink"].map String.toList

/-- Whether the canonical hook of the function has no number sign. -/
def isPlainFunction (name : Text) : Bool := plainFunctions.contains name

/-- Whether the character ends a hook: a colon, narrow or wide. -/
def isHookColon (c : Char) : Bool := c = ':' || c = '：'

/-- Whether the character may stand in a hook in front of its colon. -/
def isHookChar (c : Char) : Bool := !isHookColon c && !isBlank c

/-- The candidate for a hook that a text begins with, blanks aside: a run of characters that are neither
blanks nor colons, and the colon behind it. -/
def hookCandidate? (s : Text) : Option Text :=
  let body := Text.trim s
  let run := body.takeWhile isHookChar
  match body.dropWhile isHookChar with
  | c :: _ => if !run.isEmpty && isHookColon c then some (run ++ [c]) else none
  | [] => none

/-- One way to write a hook: its letters up to and with the colon, behind a number sign or not. -/
structure Spelling where
  hashed : Bool
  letters : Text

namespace Spelling

/-- The spelling that a name or an alias of a function gives rise to. It keeps a number sign of its own, and
gets a colon if it does not end in one. -/
def ofName (plain : Bool) (name : Text) : Spelling :=
  let withColon (s : Text) : Text :=
    match s.getLast? with
    | some c => if isHookColon c then s else s ++ [':']
    | none => [':']
  match name with
  | '#' :: rest => ⟨true, withColon rest⟩
  | _ => ⟨!plain, withColon name⟩

/-- Whether the letters match those of the spelling. If case counts, it does not for the first letter. -/
def lettersMatch (caseSensitive : Bool) (letters s : Text) : Bool :=
  if caseSensitive then
    match letters, s with
    | first :: rest, c :: others => (Text.lower [first] ++ Text.upper [first]).contains c && rest == others
    | _, _ => false
  else Text.sameLetters letters s

/-- Whether the candidate is written in this spelling. -/
def accepts (caseSensitive : Bool) (spelling : Spelling) (candidate : Text) : Bool :=
  if spelling.hashed then
    match candidate with
    | '#' :: rest => lettersMatch caseSensitive spelling.letters rest
    | _ => false
  else lettersMatch caseSensitive spelling.letters candidate

end Spelling

/-- Whether the name stands between underscores, with something between them. -/
def isUnderscored (name : Text) : Bool :=
  let isUnderscore (c : Char) : Bool := c = '_' || c = '＿'
  match name with
  | first :: _ :: rest =>
    isUnderscore first &&
      match rest.getLast? with
      | some last => isUnderscore last
      | none => false
  | _ => false

/-- The spellings of one function hook. -/
structure HookEntry where
  caseSensitive : Bool
  spellings : List Spelling

def HookEntry.accepts (entry : HookEntry) (candidate : Text) : Bool :=
  entry.spellings.any fun spelling => spelling.accepts entry.caseSensitive candidate

/-- The function hooks of a site by their canonical form. -/
abbrev HookTable := Keyed Text HookEntry

/-- A hook that the site knows: its canonical form and the way it was written. -/
structure VerifiedHook where
  canonical : Text
  written : Text
  deriving DecidableEq

def canonicalHook (name : Text) : Text := (if isPlainFunction name then [] else ['#']) ++ name ++ [':']

/-- The entry of a magic word that is a function. -/
def HookEntry.ofMagicWord (word : MagicWord) : HookEntry where
  caseSensitive := word.caseSensitive
  spellings := (word.name :: word.aliases.filter fun other => other != word.name && !isUnderscored other).map
    (Spelling.ofName (isPlainFunction word.name))

namespace HookTable

/-- The table of those magic words that are functions. A word that is listed again keeps its place and takes
the later spellings. -/
def ofMagicWords (words : List MagicWord) (functionHooks : List Text) : HookTable :=
  (words.filter fun word => functionHooks.contains word.name).foldl
    (fun table word => Keyed.put (canonicalHook word.name) (HookEntry.ofMagicWord word) table) []

/-- The hook that the text begins with, if the table knows it. -/
def verify (table : HookTable) (s : Text) : Option VerifiedHook := do
  let candidate ← hookCandidate? s
  let entry ← table.find? fun entry => entry.2.accepts candidate
  return ⟨entry.1, candidate⟩

def shown (table : HookTable) : Text := "<HookTable[hooks=".toList ++ Text.ofNat table.length ++ "]>".toList

end HookTable

def Site.hookTable (site : Site) : HookTable := HookTable.ofMagicWords site.magicWords site.functionHooks

end PageMarkup
