/-!
# Texts

A text is a list of characters, so that lengths, indexes and spans count characters. A surrogate that stands
alone is no character, and no text has one. This module holds the searches and replacements that the rest of
the library shares. The laws beside the definitions say that cutting a text loses nothing
(`cutAtFirst_append`, `joinWith_splitOn`).
-/
namespace PageMarkup

abbrev Text := List Char

/-- The pieces of a list between the members that satisfy `p`. -/
def pieces {α : Type} (p : α → Bool) : List α → List (List α)
  | [] => [[]]
  | a :: rest =>
    if p a then [] :: pieces p rest
    else
      match pieces p rest with
      | [] => [[a]]
      | piece :: others => (a :: piece) :: others

theorem pieces_ne_nil {α : Type} (p : α → Bool) (l : List α) : pieces p l ≠ [] := by
  cases l with
  | nil => simp [pieces]
  | cons a rest =>
    simp only [pieces]
    split
    · simp
    · split <;> simp

namespace Text

def startsWith (lead s : Text) : Bool := lead.isPrefixOf s

def endsWith (tail s : Text) : Bool := tail.isSuffixOf s

def find? (part : Text) : Text → Option Nat
  | [] => if part.isEmpty then some 0 else none
  | c :: rest => if startsWith part (c :: rest) then some 0 else (find? part rest).map (· + 1)

/-- Whether `part` occurs somewhere in the text. -/
def includes (part s : Text) : Bool := (find? part s).isSome

/-- The text with its first occurrence of `part`, if there is one, replaced by `by_`. -/
def replaceFirst (part by_ s : Text) : Text :=
  match find? part s with
  | none => s
  | some i => s.take i ++ by_ ++ s.drop (i + part.length)

/-- The text with every `old` character replaced by `new`. -/
def replaceChar (old new : Char) (s : Text) : Text := s.map fun c => if c = old then new else c

/-- The text before the first `sep`, and the text behind it if there is one. -/
def cutAtFirst (sep : Char) : Text → Text × Option Text
  | [] => ([], none)
  | c :: rest =>
    if c = sep then ([], some rest)
    else ((c :: (cutAtFirst sep rest).1), (cutAtFirst sep rest).2)

/-- The pieces of the text between its `sep` characters. -/
def splitOn (sep : Char) (s : Text) : List Text := pieces (· == sep) s

/-- The texts one after the other, with `sep` between them. -/
def joinWith (sep : Text) : List Text → Text
  | [] => []
  | [s] => s
  | s :: t :: rest => s ++ sep ++ joinWith sep (t :: rest)

/-- The characters from index `start` up to index `stop`. -/
def slice (start stop : Nat) (s : Text) : Text := (s.take stop).drop start

/-- The number of bytes of the text in UTF-8. -/
def utf8Length : Text → Nat
  | [] => 0
  | c :: rest => c.utf8Size + utf8Length rest

/-- The order of texts by code points; a text comes before its extensions. -/
def precedes : Text → Text → Bool
  | [], _ => true
  | _ :: _, [] => false
  | c :: s, d :: t => c.toNat < d.toNat || (c = d && precedes s t)

def ofInt (n : Int) : Text := (toString n).toList

def ofBool (b : Bool) : Text := if b then "True".toList else "False".toList

def ofNat (n : Nat) : Text := Nat.toDigits 10 n

@[simp] theorem cutAtFirst_append (sep : Char) (s : Text) :
    (match cutAtFirst sep s with
      | (before, none) => before
      | (before, some behind) => before ++ sep :: behind) = s := by
  induction s with
  | nil => rfl
  | cons c rest ih =>
    by_cases h : c = sep
    · simp [cutAtFirst, h]
    · simp only [cutAtFirst, if_neg h]
      cases hc : cutAtFirst sep rest with
      | mk before behind =>
        rw [hc] at ih
        cases behind <;> simp_all

/-- Joining the pieces puts back the separators that were cut out. -/
theorem joinWith_splitOn (sep : Char) (s : Text) : joinWith [sep] (splitOn sep s) = s := by
  induction s with
  | nil => rfl
  | cons c rest ih =>
    simp only [splitOn] at ih ⊢
    obtain ⟨p, ps, hp⟩ := List.exists_cons_of_ne_nil (pieces_ne_nil (· == sep) rest)
    rw [hp] at ih
    by_cases h : c = sep
    · simp [pieces, h, hp, joinWith, ih]
    · cases ps <;> simp_all [pieces, joinWith]

end Text

end PageMarkup
