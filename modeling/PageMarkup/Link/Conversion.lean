import PageMarkup.Link.Basic

/-!
# Conversions between links

A link to a page, a link that embeds a file and a raw link can be made one another by naming a title that
fits. Fresh links carry over their current display or parameters. Links found by a scan are read again from
their records, but what is displayed by a link that embeds a file comes from its current parameters.
-/
namespace PageMarkup

/-- The full text of a title; any other value as it is. -/
def Value.fullTitleText : Value → Value
  | .leaf (.title t) => .text (t.render true true)
  | v => v

/-- The action of making a link one that embeds a file. -/
def makingFileLink (title : Value) : Except Unwritable Text :=
  actionWith "convert to a file link with " "title" title

/-- The action of making a link one to a page. -/
def makingLink (title : Value) : Except Unwritable Text := actionWith "convert to a link with " "title" title

/-- The parameters of a link that embeds a file, made of what a link displays. -/
def paramsOfDisplay (display : Option Text) : List Text :=
  match display with
  | some (c :: rest) => [c :: rest]
  | _ => []

/-- The link to a page that a record describes with the given title. -/
def ScannedLink.ofTitle (site : Option Site) (record : LinkRecord) (title : Value) : Except Fault ScannedLink :=
  match title.fullTitleText with
  | .text s => ofRecord site { record with title := s }
  | v => .error (.ofNoTitle v)

/-- The link that embeds a file and that a record describes with the given title. What it displayed becomes its
parameter. -/
def ScannedFileLink.ofTitle (site : Option Site) (record : LinkRecord) (title : Value) :
    Except Fault ScannedFileLink :=
  match title.fullTitleText with
  | .text s =>
    ofRecord site { record.showing none (some (paramsOfDisplay record.display)) with title := s }
  | v => .error (.ofNoTitle v)

/-- The link that embeds a file with the given title. -/
def PageLink.toFileLink (link : PageLink) (title : Value) (verbose : Bool := false) :
    Except Fault (Attempt FileLink) :=
  Attempt.of (makingFileLink title) link.shown verbose
    (FileLink.create (some link.title.site) title (.list ((paramsOfDisplay link.display).map .text)))

def ScannedLink.toFileLink (link : ScannedLink) (title : Value) (verbose : Bool := false) :
    Except Fault (Attempt ScannedFileLink) :=
  Attempt.of (makingFileLink title) link.shown verbose
    (ScannedFileLink.ofTitle (some link.title.site) link.record title)

/-- The link to the page with the given title. It displays the parameters. -/
def FileLink.toLink (link : FileLink) (title : Value) (verbose : Bool := false) : Except Fault (Attempt PageLink) :=
  Attempt.of (makingLink title) link.shown verbose
    (PageLink.create (some link.title.site) title (Value.ofText? link.joinedParams?))

/-- The link to the page with the given title. It displays the parameters as they are now. -/
def ScannedFileLink.toLink (link : ScannedFileLink) (title : Value) (verbose : Bool := false) :
    Except Fault (Attempt ScannedLink) :=
  Attempt.of (makingLink title) link.shown verbose
    (ScannedLink.ofTitle (some link.title.site) (link.record.showing link.joinedParams? none) title)

def RawLink.toLink (link : RawLink) (title : Value) (verbose : Bool := false) : Except Fault (Attempt PageLink) :=
  Attempt.of (makingLink title) link.shown verbose
    (PageLink.create (link.siteFor title) title (Value.ofText? link.display))

def RawLink.toFileLink (link : RawLink) (title : Value) (verbose : Bool := false) : Except Fault (Attempt FileLink) :=
  Attempt.of (makingFileLink title) link.shown verbose
    (FileLink.create (link.siteFor title) title (.list ((paramsOfDisplay link.display).map .text)))

def ScannedRawLink.toLink (link : ScannedRawLink) (title : Value) (verbose : Bool := false) :
    Except Fault (Attempt ScannedLink) :=
  Attempt.of (makingLink title) link.shown verbose (ScannedLink.ofTitle (link.siteFor title) link.record title)

def ScannedRawLink.toFileLink (link : ScannedRawLink) (title : Value) (verbose : Bool := false) :
    Except Fault (Attempt ScannedFileLink) :=
  Attempt.of (makingFileLink title) link.shown verbose
    (ScannedFileLink.ofTitle (link.siteFor title) link.record title)

end PageMarkup
