import PageMarkup.Text.Blank

/-!
# Direction marks

Marks that only steer the direction of writing come along when a title is copied from a page. They are
taken out before a text is read.
-/
namespace PageMarkup

/-- Whether the character is a mark that only steers the direction of writing. -/
def isDirectionMark (c : Char) : Bool :=
  c = '\u200e' || c = '\u200f' || ('\u202a'.toNat ≤ c.toNat && c.toNat ≤ '\u202e'.toNat)

namespace Text

def dropMarks (s : Text) : Text := s.filter fun c => !isDirectionMark c

/-- The text without its direction marks and without blanks at its ends. -/
def clean (s : Text) : Text := trim (dropMarks s)

end Text

end PageMarkup
