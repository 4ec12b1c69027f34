import PageMarkup.Value

/-!
# Faults

Why an operation is refused. Each cause is a constructor, `Fault.message` words it, and the conversions
between nodes report those faults for which `Fault.isReportable` holds instead of failing.
-/
namespace PageMarkup

/-- What is wrong with the text of a title. -/
inductive TitleFlaw where
  | illegalCharacters
  | bareNamespace
  | empty
  | signature
  | relativePath
  | tooLong
  | nothingToTransclude

/-- Why a valid title cannot stand where it is put. -/
inductive Misplacement where
  | functionHook
  | untranscludable
  | interwikiFile
  | colonFile
  | notFile
  | file

/-- What was expected in place of a value. -/
inductive Expectation where
  | text (role : Text)
  | index
  | title
  | display
  | comparison
  | keyQuery

/-- What a site is needed for. -/
inductive SiteNeed where
  | parsing
  | templateTitle
  | linkTitle
  | conversion (node : Text)

/-- Why an operation is refused. -/
inductive Fault where
  | invalidTitle (given : Text) (flaw : TitleFlaw)
  | misplacedTitle (given : Value) (problem : Misplacement)
  | invalidHook (given : Value)
  | hookNotFound (title rawTitle hook : Text)
  | unexpected (wanted : Expectation) (found : Text)
  | siteRequired (need : SiteNeed)
  /-- A seed of a form that no seed has, as it is written out. -/
  | invalidParameter (given : Text)
  | invalidHierarchy (given : Text)
  /-- A position of the right form whose words do not fit. -/
  | invalidPosition (given : Text)
  /-- A position of a form that no position has. -/
  | malformedPosition (given : Text)
  /-- A value that was to be written out, but cannot be. -/
  | unwritable (why : Unwritable)
  | unknownNamespace (given site : Text)
  | noTitle
  | notIterable (kind : Text)
  /-- A value that can be no member of a set. -/
  | notHashable (kind : Text)
  /-- A value of which no part can be taken. -/
  | noParts (kind : Text)
  /-- A value that has no place in the order of others. -/
  | notOrdered (kind : Text)
  | missingField (name : Text)
  | noNumeral (given : Text)
  /-- A value of a form that the operation cannot work on at all. -/
  | unsupported (found : Text)
  /-- A value that cannot be joined with texts. -/
  | notJoinable (found : Text)
  /-- Arguments or fields that are too many or too few, or have names that are not known. -/
  | wrongArguments

instance : Inhabited Fault := ⟨.noTitle⟩

def TitleFlaw.wording : TitleFlaw → Text
  | illegalCharacters => "it contains illegal characters".toList
  | bareNamespace => "it has a namespace prefix without a title".toList
  | empty => "it is empty".toList
  | signature => "it contains a signature".toList
  | relativePath => "it is a relative path".toList
  | tooLong => "it exceeds 255 bytes".toList
  | nothingToTransclude => "the empty title cannot be transcluded".toList

def Misplacement.wording : Misplacement → Text
  | functionHook => "The title is a parser function hook".toList
  | untranscludable => "The interwiki title cannot be transcluded".toList
  | interwikiFile => "The title is interwiki".toList
  | colonFile => "The title has a leading colon".toList
  | notFile => "The title does not belong to the File namespace".toList
  | file => "The title is a file title".toList

def Expectation.wording : Expectation → Text
  | text role => "a str for ".toList ++ role
  | index => "an int for index".toList
  | title => "a str or Title for title".toList
  | display => "a str or None for display".toList
  | comparison => "a str or compiled pattern to match values against".toList
  | keyQuery => "a str, compiled pattern, or predicate for key".toList

def SiteNeed.wording : SiteNeed → Text
  | parsing => "parse titles".toList
  | templateTitle => "validate template titles".toList
  | linkTitle => "validate link titles".toList
  | conversion node => "convert ".toList ++ node

namespace Fault

/-- What is said of a title that cannot be read. -/
def titleMessage (given reason : Text) : Text := "Invalid title=".toList ++ given ++ ": ".toList ++ reason

/-- What is said of a valid title that is put where it cannot stand. -/
def misplacementMessage (problem given : Text) : Text :=
  "TitleNamespaceError: ".toList ++ problem ++ " for title=".toList ++ given

/-- What is said of a misplaced title if nothing more is known. -/
def generalMisplacement : Text := "The title cannot be used here".toList

/-- What is said of a hook that the site does not know. -/
def hookMessage (given : Text) : Text := given ++ " is not a valid function hook".toList

/-- What is said of a hook that does not occur where it was read from. -/
def rawTitleMessage (title rawTitle hook : Text) : Text :=
  "Unable to locate hook=".toList ++ hook ++ " in raw_title=".toList ++ rawTitle ++ " for title=".toList ++ title

/-- What the fault says. A title and a hook are written out only when the fault is asked for its message. -/
def message : Fault → Except Unwritable Text
  | invalidTitle given flaw => .ok (titleMessage (Text.quoted given) flaw.wording)
  | misplacedTitle given problem => misplacementMessage problem.wording <$> given.shown
  | invalidHook given => hookMessage <$> given.shown
  | hookNotFound title rawTitle hook =>
    .ok (rawTitleMessage (Text.quoted title) (Text.quoted rawTitle) (Text.quoted hook))
  | unexpected wanted found => .ok ("Expected ".toList ++ wanted.wording ++ "; found ".toList ++ found)
  | siteRequired need => .ok ("A site is required to ".toList ++ need.wording)
  | invalidParameter given =>
    .ok ("Invalid parameter=".toList ++ given ++ " - expected a ParamSeed, (key, value) pair, or mapping".toList)
  | invalidHierarchy given => .ok ("Invalid hierarchy=".toList ++ given ++ " - expected a sequence of keys".toList)
  | invalidPosition given => .ok ("Invalid position=".toList ++ given)
  | malformedPosition given =>
    .ok ("Invalid position=".toList ++ given ++ " - expected a str or a single-entry mapping".toList)
  | unwritable why => .ok why.message
  | unknownNamespace given site => .ok ("Unknown namespace=".toList ++ given ++ " for ".toList ++ site)
  | noTitle => .ok "no title was provided".toList
  | notIterable kind => .ok (Text.quoted kind ++ " object is not iterable".toList)
  | notHashable kind => .ok (Unwritable.notHashable kind).message
  | noParts kind => .ok (Text.quoted kind ++ " object is not subscriptable".toList)
  | notOrdered kind => .ok (Text.quoted kind ++ " object has no order among the others".toList)
  | missingField name => .ok (Text.quoted name)
  | noNumeral given => .ok ("invalid literal for int() with base 10: ".toList ++ Text.quoted given)
  | unsupported found => .ok (Text.quoted found ++ " object does not support the operation".toList)
  | wrongArguments => .ok "the arguments do not fit".toList
  | notJoinable found =>
    .ok ("can only concatenate str (not ".toList ++ ['\x22'] ++ found ++ ['\x22'] ++ ") to str".toList)

/-- Whether a fallible conversion reports the fault, rather than failing with it: faults of markup and of the
form of an argument. -/
def isReportable : Fault → Bool
  | invalidTitle .. | misplacedTitle .. | invalidHook .. | hookNotFound .. => true
  | unexpected .. | siteRequired .. | invalidParameter .. | invalidHierarchy .. => true
  | malformedPosition .. | notIterable .. | notHashable .. | noParts .. | notOrdered .. => true
  | notJoinable .. | wrongArguments | unwritable (.notHashable _) => true
  | unwritable .tooManyDigits => false
  | invalidPosition .. | unknownNamespace .. | noTitle | missingField .. | noNumeral .. | unsupported .. => false

/-- Whether the fault lies in a title: in its text, or in where it is put. -/
def isOfTitle : Fault → Bool
  | invalidTitle .. | misplacedTitle .. => true
  | _ => false

/-- The fault of a value that stands where `wanted` is expected. -/
def found (wanted : Expectation) (v : Value) : Fault := unexpected wanted v.kind

/-- The fault of a value that is not read as a title: it is none, or it is one that cannot be written. -/
def ofNoTitle : Value → Fault
  | .leaf (.unplaced t) => unwritable t.unwritable
  | v => found .title v

/-- The fault whose message names a value, or that of a value which cannot be written out in it. -/
def naming (v : Value) (fault : Text → Fault) : Fault :=
  match v.shown with
  | .ok s => fault s
  | .error why => unwritable why

end Fault

/-- A value that cannot be written out is a fault where it has to be. -/
instance : MonadLift (Except Unwritable) (Except Fault) := ⟨Except.mapError .unwritable⟩

/-- The text that a value is, or a fault that names the role it was to play. -/
def Value.expectText (role : Text) : Value → Except Fault Text
  | .text s => .ok s
  | v => .error (.found (.text role) v)

/-- The items of a value that can be gone through. -/
def Value.expectItems (v : Value) : Except Fault (List Value) :=
  match v.items? with
  | some items => .ok items
  | none => .error (.notIterable v.kind)

end PageMarkup
