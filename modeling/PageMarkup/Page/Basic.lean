import PageMarkup.Fault
import PageMarkup.Record
import PageMarkup.Scan.Cut

/-!
# Pages

A page is a text of a site. Its records describe the constructs in double braces and the links that a scan
finds in it, in the order of the text. What stands in certain tags is no live markup: those constructs are
found as well, but they are marked as skipped.
-/
namespace PageMarkup

open Scan (Span)

/-- A text of a site, and the tags whose content is no live markup. -/
structure Page where
  text : Text
  site : Option Site
  skipTags : List Text

/-- The name that stands for comments among the names of tags. -/
def commentTag : Text := "!--".toList

/-- The tags whose content is no live markup unless others are named. -/
def defaultSkipTags : List Text :=
  [commentTag] ++ ["nowiki", "pre", "syntaxhighlight", "source", "math"].map String.toList

namespace Page

def expectTag : Value → Except Fault Text
  | .text s => .ok (Text.lower s)
  | v => .error (.unsupported v.kind)

def addSkipTag (page : Page) (tag : Value) : Except Fault Page := do
  let tag ← expectTag tag
  return if page.skipTags.contains tag then page else { page with skipTags := page.skipTags ++ [tag] }

def removeSkipTag (page : Page) (tag : Value) : Except Fault Page := do
  let tag ← expectTag tag
  return { page with skipTags := page.skipTags.filter (· != tag) }

def create (site : Option Site) (text : Value) (skipTags : Value := .list (defaultSkipTags.map .text)) :
    Except Fault Page := do
  let text ← text.expectText "text".toList
  (← skipTags.expectItems).foldlM addSkipTag { text, site, skipTags := [] }

def shown (page : Page) : Text := "<Wikitext[".toList ++ Text.quotedBriefly page.text ++ "]>".toList

def scan (page : Page) : Scan := Scan.ofText page.text

/-- The spans whose content is no live markup. -/
def skipSpans (page : Page) (scan : Scan) : List Span :=
  page.skipTags.flatMap fun tag => if tag = commentTag then scan.comments.map (·.span) else scan.tagSpans tag

end Page

/-- The title that is written in a head: what is left of it without comments and without blanks at its ends. -/
def titleOfHead (head : Text) : Text := Text.trim (stripComments head)

/-- The origin of a construct with the given head. -/
def Origin.ofHead (head written : Text) (span : Span) (around skipped : List Span) : Origin where
  title := titleOfHead head
  rawTitle := rawTitleOf head (titleOfHead head)
  written := written
  span := span
  nestLevel := around.countP (·.encloses span)
  skipped := skipped.any (·.covers span)

def Argument.toSeed (arg : Argument) : SeedValue where
  value := .text arg.value
  key := Value.ofText? arg.key
  source := .text arg.written

def BraceRecord.ofBrace (around skipped : List Span) (brace : Brace) : BraceRecord where
  toOrigin := Origin.ofHead brace.head brace.written brace.span around skipped
  seeds := brace.arguments.map Argument.toSeed

/-- The records of constructs in double braces, given the spans to skip. -/
def braceRecordsOf (skipped : List Span) (braces : List Brace) : List BraceRecord :=
  braces.map (BraceRecord.ofBrace (braces.map (·.span)) skipped)

/-- The index of the last span among those before `index` that encloses the one there. -/
def parentOf? (spans : List Span) (index : Nat) : Option Nat := do
  let span ← spans[index]?
  let (_, i) ← (spans.take index).zipIdx.reverse.find? fun entry => entry.1.encloses span
  return i

def parentsOf (spans : List Span) : List (Option Nat) := (List.range spans.length).map (parentOf? spans)

/-- The indexes whose parent is `index`, in ascending order. -/
def childrenOf (parents : List (Option Nat)) (index : Nat) : List Nat :=
  parents.zipIdx.filterMap fun (parent, i) => if parent = some index then some i else none

/-- The records of links, given the spans of the constructs in braces around them and those to skip. -/
def linkRecordsOf (braces skipped : List Span) (links : List Bracket) : List LinkRecord :=
  let parents := parentsOf (links.map (·.span))
  (links.zip parents).zipIdx.map fun ((link, parent), index) =>
    { toOrigin := Origin.ofHead link.target link.written link.span braces skipped
      index, parent
      children := childrenOf parents index
      display := link.display }

namespace Page

/-- The records of the constructs in double braces. -/
def braceRecords (page : Page) : List BraceRecord :=
  let scan := page.scan
  braceRecordsOf (page.skipSpans scan) scan.braces

def linkRecords (page : Page) : List LinkRecord :=
  let scan := page.scan
  linkRecordsOf (scan.braces.map (·.span)) (page.skipSpans scan) scan.brackets

end Page

end PageMarkup
