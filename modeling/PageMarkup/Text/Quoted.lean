import PageMarkup.Text.Basic
import PageMarkup.Text.Printable

/-!
# Quoted texts

A quoted text stands between apostrophes, or between double quotes if it holds an apostrophe and no double
quote. The quote in use and the backslash are escaped by a backslash, and characters that are not
printable by their code.
-/
namespace PageMarkup

private def apostrophe : Char := '\x27'

private def doubleQuote : Char := '\x22'

private def backslash : Char := '\x5c'

/-- The hexadecimal numeral of `n`, in lower case and with at least `width` digits. -/
def hexadecimal (width n : Nat) : Text :=
  let digits := Nat.toDigits 16 n
  List.replicate (width - digits.length) '0' ++ digits

/-- The way a character is written between quotes of the kind `quote`. -/
def quotedChar (quote c : Char) : Text :=
  if c = quote || c = backslash then [backslash, c]
  else if c = '\t' then [backslash, 't']
  else if c = '\n' then [backslash, 'n']
  else if c = '\r' then [backslash, 'r']
  else if isPrintable c then [c]
  else if c.toNat < 0x100 then [backslash, 'x'] ++ hexadecimal 2 c.toNat
  else if c.toNat < 0x10000 then [backslash, 'u'] ++ hexadecimal 4 c.toNat
  else [backslash, 'U'] ++ hexadecimal 8 c.toNat

def quoteFor (s : Text) : Char :=
  if s.contains apostrophe && !s.contains doubleQuote then doubleQuote else apostrophe

namespace Text

def quoted (s : Text) : Text := [quoteFor s] ++ s.flatMap (quotedChar (quoteFor s)) ++ [quoteFor s]

/-- An optional text as it is written out: in quotes if there is one. -/
def quotedOrNone : Option Text → Text
  | none => "None".toList
  | some s => quoted s

/-- The text in quotes, with the middle left out if it is longer than fifty characters. -/
def quotedBriefly (s : Text) : Text :=
  if s.length ≤ 50 then quoted s
  else quoted (s.take 24 ++ "...".toList ++ s.drop (s.length - 23))

end Text

end PageMarkup
