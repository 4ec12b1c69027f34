import PageMarkup.Text.Basic

/-!
# Blank characters

The blank characters of a text, the trimming of its ends and the collapsing of its blanks. A text that is
trimmed begins with no blank (`head_trimStart`), and trimming a second time changes nothing.
-/
namespace PageMarkup

/-- The code points of the blank characters, as runs from a first to a last one. -/
def blankRuns : List (Nat × Nat) :=
  [(0x9, 0xD), (0x1C, 0x20), (0x85, 0x85), (0xA0, 0xA0), (0x1680, 0x1680), (0x2000, 0x200A),
   (0x2028, 0x2029), (0x202F, 0x202F), (0x205F, 0x205F), (0x3000, 0x3000)]

/-- Whether the character is blank: a space, a line break or another separator of its kind. -/
def isBlank (c : Char) : Bool := blankRuns.any fun run => run.1 ≤ c.toNat && c.toNat ≤ run.2

namespace Text

/-- The text without the blanks at its start. -/
def trimStart (s : Text) : Text := s.dropWhile isBlank

def trimEnd (s : Text) : Text := (s.reverse.dropWhile isBlank).reverse

def trim (s : Text) : Text := trimEnd (trimStart s)

/-- The maximal runs of characters that are not blank. -/
def words (s : Text) : List Text := (pieces isBlank s).filter fun w => !w.isEmpty

/-- The words of the text with one space between them. -/
def collapse (s : Text) : Text := joinWith [' '] (words s)

/-- A text trimmed at its start begins with no blank. -/
theorem head_trimStart {c : Char} {s rest : Text} (h : trimStart s = c :: rest) : isBlank c = false := by
  have := List.head?_dropWhile_not isBlank s
  simp only [trimStart] at h
  simpa [h] using this

@[simp] theorem trimStart_trimStart (s : Text) : trimStart (trimStart s) = trimStart s := by
  cases h : trimStart s with
  | nil => rfl
  | cons c rest => simp [trimStart, head_trimStart h]

end Text

end PageMarkup
