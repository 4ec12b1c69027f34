import PageMarkup.Text.Basic

/-!
# Lines

A line ends at a line feed, at a carriage return with or without a line feed behind it, or at one of the
other line boundaries. A boundary at the end of the text opens no further line.
-/
namespace PageMarkup

def isLineBoundary (c : Char) : Bool :=
  ['\n', '\r', '\x0b', '\x0c', '\x1c', '\x1d', '\x1e', '\x85', '\u2028', '\u2029'].contains c

namespace Text

/-- The lines of the text, with `line` as the reversed start of the first one. -/
def linesFrom (line : Text) : Text → List Text
  | [] => if line.isEmpty then [] else [line.reverse]
  | '\r' :: '\n' :: rest => line.reverse :: linesFrom [] rest
  | c :: rest => if isLineBoundary c then line.reverse :: linesFrom [] rest else linesFrom (c :: line) rest

def lines (s : Text) : List Text := linesFrom [] s

end Text

end PageMarkup
