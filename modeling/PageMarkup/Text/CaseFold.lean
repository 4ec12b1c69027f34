import PageMarkup.Text.Case

/-!
# Comparison without regard to case

Two characters are the same letter if their lower cases are the same character or belong to the same
class of variants, such as the two small sigmas. `sameLetter` is an equivalence, because it compares the
values of one function.
-/
namespace PageMarkup

/-- Classes of lower-case letters that are variants of each other; the first member stands for its class. -/
def letterVariants : List (List Nat) :=
  [[0x69, 0x131], [0x73, 0x17F], [0xB5, 0x3BC], [0x345, 0x3B9, 0x1FBE], [0x390, 0x1FD3], [0x3B0, 0x1FE3],
   [0x3B2, 0x3D0], [0x3B5, 0x3F5], [0x3B8, 0x3D1], [0x3BA, 0x3F0], [0x3C0, 0x3D6], [0x3C1, 0x3F1],
   [0x3C2, 0x3C3], [0x3C6, 0x3D5], [0x432, 0x1C80], [0x434, 0x1C81], [0x43E, 0x1C82], [0x441, 0x1C83],
   [0x442, 0x1C84, 0x1C85], [0x44A, 0x1C86], [0x463, 0x1C87], [0x1C88, 0xA64B], [0x1E61, 0x1E9B],
   [0xFB05, 0xFB06]]

/-- The code point that stands for the letter in every case and variant. -/
def letterCode (c : Char) : Nat :=
  let small := (lowerSimple c).toNat
  match letterVariants.find? (·.contains small) with
  | some (representative :: _) => representative
  | _ => small

/-- Whether two characters are the same letter up to case. -/
def sameLetter (a b : Char) : Bool := letterCode a == letterCode b

namespace Text

/-- Whether two texts agree letter by letter up to case. -/
def sameLetters : Text → Text → Bool
  | [], [] => true
  | a :: s, b :: t => sameLetter a b && sameLetters s t
  | _, _ => false

end Text

@[simp] theorem sameLetter_refl (c : Char) : sameLetter c c = true := by simp [sameLetter]

@[simp] theorem Text.sameLetters_refl (s : Text) : Text.sameLetters s s = true := by
  induction s with
  | nil => rfl
  | cons c rest ih => simp [sameLetters, ih]

end PageMarkup
