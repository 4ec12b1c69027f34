import PageMarkup.Text.Basic
import PageMarkup.Text.CaseTable

/-!
# Letter case

Upper and lower case of texts. A character may have an upper case of several characters, and a capital
sigma has a lower case of its own at the end of a word.
-/
namespace PageMarkup

def CaseRun.covers (run : CaseRun) (n : Nat) : Bool :=
  run.first ≤ n && n ≤ run.last && (n - run.first) % run.step == 0

/-- The character, moved by the run that covers it. -/
def moveCase (runs : List CaseRun) (c : Char) : Char :=
  match runs.find? (·.covers c.toNat) with
  | some run => Char.ofNat (c.toNat + run.shift).toNat
  | none => c

/-- The lower case of a character where one character has to stand for it. -/
def lowerSimple (c : Char) : Char := if c = 'İ' then 'i' else moveCase lowerRuns c

/-- The lower case of a character outside of any word. -/
def lowerChar (c : Char) : Text := if c = 'İ' then ['i', '\u0307'] else [moveCase lowerRuns c]

def upperChar (c : Char) : Text :=
  match upperExpansions.lookup c.toNat with
  | some expansion => expansion
  | none => [moveCase upperRuns c]

/-- Whether one of the runs of code points covers the character. -/
def inRuns (runs : List (Nat × Nat)) (c : Char) : Bool :=
  runs.any fun run => run.1 ≤ c.toNat && c.toNat ≤ run.2

/-- Whether the text begins with a letter that has case, ignorable characters aside. -/
def startsCased (s : Text) : Bool :=
  match s.dropWhile (inRuns caseIgnorableRuns) with
  | [] => false
  | c :: _ => inRuns casedRuns c

namespace Text

/-- The lower case of `s`, where `before` is the reversed text in front of it. -/
def lowerBehind (before : Text) : Text → Text
  | [] => []
  | c :: rest =>
    (if c = 'Σ' then [if startsCased before && !startsCased rest then 'ς' else 'σ'] else lowerChar c)
      ++ lowerBehind (c :: before) rest

def lower (s : Text) : Text := lowerBehind [] s

def upper (s : Text) : Text := s.flatMap upperChar

/-- The text with its first character in upper case. -/
def capitalize : Text → Text
  | [] => []
  | c :: rest => upperChar c ++ rest

end Text

end PageMarkup
