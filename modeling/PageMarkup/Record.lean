import PageMarkup.Param.Basic
import PageMarkup.Scan.Board

/-!
# Records of scanned constructs

A record keeps where a construct was found and how its title was written. In the raw title a marker stands
for the title itself, so that what was written around it can be put around another title; `fill` does that.
A node keeps the record that it was made from, whatever is done to the node later.
-/
namespace PageMarkup

open Scan (Span)

/-- The character that stands for the title in a raw title. -/
def titleMarker : Char := '\x01'

/-- The raw title of a head with the given title: the marker stands for its first occurrence. -/
def rawTitleOf (head title : Text) : Text :=
  if title.isEmpty then head else Text.replaceFirst title [titleMarker] head

/-- The raw title with `title` in place of the marker. -/
def fillRawTitle (rawTitle title : Text) : Text := Text.replaceFirst [titleMarker] title rawTitle

/-- Where a construct was found, and how its title was written. A record may also be given by a caller, with anything
in the fields that nothing hangs on; those are kept in `given` and handed back untouched. -/
structure Origin where
  title : Text
  rawTitle : Text
  /-- The whole construct as it was written. -/
  written : Text
  span : Span := ⟨0, 0⟩
  nestLevel : Nat := 0
  /-- Whether the construct stands in a tag whose content counts for nothing. -/
  skipped : Bool := false
  given : List (Text × Plain) := []

namespace Origin

/-- Whether the raw title has a place for the title. -/
def hasMarker (o : Origin) : Bool := o.rawTitle.contains titleMarker

/-- The raw title with the title in its place. -/
def filledTitle (o : Origin) : Text := fillRawTitle o.rawTitle o.title

/-- The title part of a node whose title is now rendered as `current`. What was written around the title is
kept if there is a place for the title, or if the title is the one that was read. -/
def titlePart (o : Origin) (current : Text) (unchanged : Bool) : Text :=
  if o.hasMarker then fillRawTitle o.rawTitle (if unchanged then o.title else current)
  else if unchanged then o.rawTitle
  else current

end Origin

/-- The record of a construct in double braces. -/
structure BraceRecord extends Origin where
  seeds : List SeedValue := []
  /-- The title of the template that the construct was, if it was made a function call. -/
  templateTitle : Plain := .null

/-- The record of a link. -/
structure LinkRecord extends Origin where
  index : Nat := 0
  /-- The index of the innermost link around this one. -/
  parent : Option Nat := none
  /-- The indexes of the links for which this one is the innermost around them. -/
  children : List Nat := []
  /-- What was written behind the first pipe of a link that embeds no file. -/
  display : Option Text := none
  /-- The parts behind the title of a link that embeds a file. -/
  params : Option (List Text) := none

/-- The record with another display and other parameters. -/
def LinkRecord.showing (record : LinkRecord) (display : Option Text) (params : Option (List Text)) : LinkRecord :=
  { record with
    display, params
    given := record.given.filter fun field => field.1 ≠ "display".toList && field.1 ≠ "params".toList }

end PageMarkup
