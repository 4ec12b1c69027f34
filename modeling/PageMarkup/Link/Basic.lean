import PageMarkup.Attempt
import PageMarkup.Record
import PageMarkup.Slots
import PageMarkup.Title.Check

/-!
# Links

A link leads to a page and may display a text of its own, or it embeds a file and has positional parameters.
A link whose title cannot be read is a raw link, with a plain text for its title. Links are made by callers,
or from the records of the links that a scan has found.
-/
namespace PageMarkup

/-- The text that a link displays if `given` is asked for: without direction marks and blanks at its ends, and
none at all if nothing is left. -/
def displayOf (given : Text) : Option Text :=
  match Text.clean given with
  | [] => none
  | c :: rest => some (c :: rest)

def expectDisplay : Value → Except Fault (Option Text)
  | .null => .ok none
  | .text s => .ok (displayOf s)
  | v => .error (.found .display v)

/-- The title and the display, as a link is written out in messages. -/
def shownLink (name : String) (title : Text) (display : Option Text) : Text :=
  ['<'] ++ name.toList ++ ['['] ++ Text.quoted title ++ "][display=".toList ++ Text.quotedOrNone display ++
    "]>".toList

/-! ## Links to pages -/

/-- A link that embeds no file. -/
structure PageLink where
  title : Title
  display : Option Text

namespace PageLink

def create (site : Option Site) (title : Value) (display : Value := .null) : Except Fault PageLink := do
  let title ← Title.targeted site title
  let display ← expectDisplay display
  return { title, display }

/-- What the link displays: a text of its own, or its title. -/
def displayed (link : PageLink) : Text := link.display.getD link.title.inText

def setDisplay (link : PageLink) (display : Value) : Except Fault PageLink := do
  return { link with display := ← expectDisplay display }

def shown (link : PageLink) (name : String := "Wikilink") : Text :=
  shownLink name (link.title.render true true) link.display

def setTitle (link : PageLink) (title : Value) (verbose : Bool := false) (name : String := "Wikilink") :
    Except Fault (Attempt PageLink) :=
  Attempt.of (settingTitle title) (link.shown name) verbose do
    return { link with title := ← Title.targeted (some link.title.site) title }

end PageLink

/-- A link to a page that was found by a scan. -/
structure ScannedLink extends PageLink where
  record : LinkRecord
  /-- The title as it was read. -/
  scannedTitle : Title
  /-- The display as it was read. -/
  scannedDisplay : Option Text

namespace ScannedLink

def ofRecord (site : Option Site) (record : LinkRecord) : Except Fault ScannedLink := do
  let title ← Title.targeted site (.text record.title)
  let display := record.display.bind displayOf
  return { title, display, record, scannedTitle := title, scannedDisplay := display }

def shown (link : ScannedLink) : Text := link.toPageLink.shown "ParsedWikilink"

def setDisplay (link : ScannedLink) (display : Value) : Except Fault ScannedLink := do
  return { link with display := ← expectDisplay display }

def setTitle (link : ScannedLink) (title : Value) (verbose : Bool := false) : Except Fault (Attempt ScannedLink) := do
  let attempt ← link.toPageLink.setTitle title verbose "ParsedWikilink"
  return ⟨attempt.result.map fun changed => { link with toPageLink := changed }, attempt.report⟩

def pristine (link : ScannedLink) : Except Fault ScannedLink := ofRecord (some link.title.site) link.record

end ScannedLink

/-! ## Links that embed files -/

/-- A link that embeds a file. -/
structure FileLink where
  title : Title
  params : Slots

namespace FileLink

def create (site : Option Site) (title : Value) (params : Value := .list []) : Except Fault FileLink := do
  let title ← Title.embedded site title
  let params ← Slots.ofValue params
  return { title, params }

/-- The parameters joined by pipes, if there are any. -/
def joinedParams? (link : FileLink) : Option Text :=
  if link.params.size = 0 then none else some (Text.joinWith ['|'] link.params.strings)

def shown (link : FileLink) (name : String := "FileWikilink") : Text :=
  shownNode name (link.title.render false false) link.params.size

def setTitle (link : FileLink) (title : Value) (verbose : Bool := false) (name : String := "FileWikilink") :
    Except Fault (Attempt FileLink) :=
  Attempt.of (settingTitle title) (link.shown name) verbose do
    return { link with title := ← Title.embedded (some link.title.site) title }

end FileLink

/-- A link that embeds a file and was found by a scan. -/
structure ScannedFileLink extends FileLink where
  record : LinkRecord
  /-- The title as it was read. -/
  scannedTitle : Title

namespace ScannedFileLink

def ofRecord (site : Option Site) (record : LinkRecord) : Except Fault ScannedFileLink := do
  let title ← Title.embedded site (.text record.title)
  return { title, params := ⟨(record.params.getD []).map some⟩, record, scannedTitle := title }

def shown (link : ScannedFileLink) : Text := link.toFileLink.shown "ParsedFileWikilink"

def setTitle (link : ScannedFileLink) (title : Value) (verbose : Bool := false) :
    Except Fault (Attempt ScannedFileLink) := do
  let attempt ← link.toFileLink.setTitle title verbose "ParsedFileWikilink"
  return ⟨attempt.result.map fun changed => { link with toFileLink := changed }, attempt.report⟩

def pristine (link : ScannedFileLink) : Except Fault ScannedFileLink := ofRecord (some link.title.site) link.record

end ScannedFileLink

/-! ## Raw links -/

/-- A link whose title is no title of a page. -/
structure RawLink where
  title : Text
  display : Option Text
  site : Option Site

namespace RawLink

def create (site : Option Site) (title : Value) (display : Value := .null) : Except Fault RawLink := do
  let title ← title.expectText "title".toList
  let display ← expectDisplay display
  return { title, display, site }

def displayed (link : RawLink) : Text := link.display.getD (Text.clean link.title)

def setDisplay (link : RawLink) (display : Value) : Except Fault RawLink := do
  return { link with display := ← expectDisplay display }

def setTitle (link : RawLink) (title : Value) : Except Fault RawLink := do
  return { link with title := ← title.expectText "title".toList }

def shown (link : RawLink) (name : String := "RawWikilink") : Text := shownLink name link.title link.display

/-- The site on which a title is read: that of a title, and otherwise that of the raw link. -/
def siteFor (link : RawLink) : Value → Option Site
  | .leaf (.title t) => some t.site
  | .leaf (.unplaced t) => some t.site
  | _ => link.site

end RawLink

/-- A raw link that was found by a scan. -/
structure ScannedRawLink extends RawLink where
  record : LinkRecord
  /-- The display as it was read. -/
  scannedDisplay : Option Text

namespace ScannedRawLink

def ofRecord (site : Option Site) (record : LinkRecord) : ScannedRawLink :=
  let display := record.display.bind displayOf
  { title := record.title, display, site, record, scannedDisplay := display }

def shown (link : ScannedRawLink) : Text := link.toRawLink.shown "ParsedRawWikilink"

def setDisplay (link : ScannedRawLink) (display : Value) : Except Fault ScannedRawLink := do
  return { link with display := ← expectDisplay display }

def setTitle (link : ScannedRawLink) (title : Value) : Except Fault ScannedRawLink := do
  return { link with title := ← title.expectText "title".toList }

def pristine (link : ScannedRawLink) : ScannedRawLink := ofRecord link.site link.record

end ScannedRawLink

end PageMarkup
