import PageMarkup.Text.Basic
import PageMarkup.Text.CellTable

/-!
# Cell widths

The width of a text on a terminal, in cells. Letters of the east and pictures take two cells, and marks on other
characters none. A selector makes a picture of the character before it, and a joiner hides the character behind it.
-/
namespace PageMarkup

/-- Whether the code point lies in one of the runs. -/
def inCellRuns (runs : List (Nat × Nat)) (n : Nat) : Bool := runs.any fun run => run.1 ≤ n && n ≤ run.2

/-- The number of cells of a character on its own. -/
def cellsOf (c : Char) : Nat :=
  if inCellRuns cellFreeRuns c.toNat then 0 else if inCellRuns wideRuns c.toNat then 2 else 1

/-- Whether the character takes a second cell as a picture. -/
def widensAsPicture (c : Char) : Bool := inCellRuns pictureRuns c.toNat

/-- The character that joins the one before it and the one behind it in a single picture. -/
def cellJoiner : Char := '\u200d'

/-- The character that makes a picture of the one before it. -/
def pictureSelector : Char := '\ufe0f'

namespace Text

/-- The number of cells of a text behind `base`, the last character that took a cell and was not yet made a picture. -/
def cellsFrom (base : Option Char) : Text → Nat
  | [] => 0
  | c :: rest =>
    if c = cellJoiner then
      match rest with
      | [] => 0
      | _ :: rest => cellsFrom base rest
    else if c = pictureSelector then (if base.any widensAsPicture then 1 else 0) + cellsFrom none rest
    else
      match cellsOf c with
      | 0 => cellsFrom base rest
      | n + 1 => n + 1 + cellsFrom (some c) rest

def cells (s : Text) : Nat := cellsFrom none s

end Text

end PageMarkup
