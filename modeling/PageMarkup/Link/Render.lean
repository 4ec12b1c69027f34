import PageMarkup.Link.Basic

/-!
# Writing links

A link is written with its title and, behind a pipe, its display or its parameters between double brackets.
The display that a scan has read is written as it was found as long as it was not changed.
-/
namespace PageMarkup

/-- The title and what is displayed between double brackets. -/
def writeBrackets (title : Text) (display : Option Text) : Text :=
  ['[', '['] ++ title ++
    (match display with
      | some display => '|' :: display
      | none => []) ++ [']', ']']

/-- The display as it is written: as it was found, if it was found and was not changed. -/
def LinkRecord.displayPart (record : LinkRecord) (scanned display : Option Text) : Option Text :=
  if display = scanned then record.display.or display else display

def PageLink.render (link : PageLink) (withoutDisplay : Bool := false) : Text :=
  writeBrackets (link.title.render true true) (if withoutDisplay then none else link.display)

namespace ScannedLink

/-- The title as it is written; with `raw` and what was written around it. -/
def titlePart (link : ScannedLink) (raw : Bool) : Text :=
  let current := link.title.render true true
  if raw then link.record.titlePart current (link.title.same link.scannedTitle) else current

def render (link : ScannedLink) (raw : Bool := false) (withoutDisplay : Bool := false) : Text :=
  writeBrackets (link.titlePart raw)
    (if withoutDisplay then none else link.record.displayPart link.scannedDisplay link.display)

end ScannedLink

def RawLink.render (link : RawLink) (withoutDisplay : Bool := false) : Text :=
  writeBrackets link.title (if withoutDisplay then none else link.display)

namespace ScannedRawLink

/-- The title as it is written; with `raw` and what was written around it. -/
def titlePart (link : ScannedRawLink) (raw : Bool) : Text :=
  if raw then link.record.titlePart link.title (link.title == link.record.title) else link.title

def render (link : ScannedRawLink) (raw : Bool := false) (withoutDisplay : Bool := false) : Text :=
  writeBrackets (link.titlePart raw)
    (if withoutDisplay then none else link.record.displayPart link.scannedDisplay link.display)

end ScannedRawLink

/-- The parameters joined by pipes, in their own order or in that of `sorting`, if there are any. -/
def FileLink.paramsPart (link : FileLink) (sorting : Option (Text → Text → Bool)) : Option Text :=
  let params := match sorting with
    | some le => link.params.strings.mergeSort le
    | none => link.params.strings
  if params.isEmpty then none else some (Text.joinWith ['|'] params)

def FileLink.titleText (link : FileLink) : Text := link.title.render false false false

def FileLink.render (link : FileLink) (sorting : Option (Text → Text → Bool) := none) : Text :=
  writeBrackets link.titleText (link.paramsPart sorting)

namespace ScannedFileLink

/-- The title as it is written; with `raw` and what was written around it. -/
def titlePart (link : ScannedFileLink) (raw : Bool) : Text :=
  if raw then link.record.titlePart link.titleText (link.title.same link.scannedTitle) else link.titleText

def render (link : ScannedFileLink) (raw : Bool := false) (sorting : Option (Text → Text → Bool) := none) : Text :=
  writeBrackets (link.titlePart raw) (link.paramsPart sorting)

end ScannedFileLink

end PageMarkup
