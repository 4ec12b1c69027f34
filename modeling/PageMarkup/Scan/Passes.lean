import PageMarkup.Scan.Markup

/-!
# The passes of a scan

A scan reads comments and extension tags from left to right. Within the text and within each tag whose
content is markup it then looks for links, parameters and braces until no more are found, with everything
recognized overwritten. Every loop runs on a bound that the length of its range provides: each round takes
at least one bracket off the board, and each range is shorter than the one around it.
-/
namespace PageMarkup.Scan

/-! ## Tags of the page -/

/-- The start tags of the page in a range, from left to right. -/
def startTags (b : Board) (stop i : Nat) : List Span :=
  if i < stop then
    let nameEnd := b.skip isWordChar stop (i + 1)
    if b.holds i '<' && htmlTags.contains (b.read ⟨i + 1, nameEnd⟩) then
      match b.behindAngle? stop nameEnd with
      | some j => if i < j then ⟨i, j⟩ :: startTags b stop j else []
      | none => startTags b stop (i + 1)
    else startTags b stop (i + 1)
  else []
termination_by stop - i

/-- Whether the cell may follow the name in an end tag. -/
def isEndTagGap (c : Char) : Bool := [' ', '\t', '\n', '\x0c', '\r', absent].contains c

/-- The end of an end tag whose name ends at `i`. -/
def endTagEnd? (b : Board) (stop i : Nat) : Option Nat :=
  if i < stop then
    match b[i]? with
    | some '>' => some (i + 1)
    | some c => if isEndTagGap c then b.behindAngle? stop (i + 1) else none
    | none => none
  else none

/-- The end tags of the page in a range, from left to right. -/
def endTags (b : Board) (stop i : Nat) : List Span :=
  if i < stop then
    let nameEnd := b.skip isWordChar stop (i + 2)
    if b.reads stop i ['<', '/'] && htmlTags.contains (b.read ⟨i + 2, nameEnd⟩) then
      match endTagEnd? b stop nameEnd with
      | some j => if i < j then ⟨i, j⟩ :: endTags b stop j else []
      | none => endTags b stop (i + 1)
    else endTags b stop (i + 1)
  else []
termination_by stop - i

/-! ## Links, parameters and braces in a range -/

def maskTagBrackets (c : Char) : Char := if c = '[' || c = ']' then '_' else c

def maskTagRest (c : Char) : Char := if ['|', '\x7b', '\x7d', '\r', '\n'].contains c then '_' else c

/-- One pass over the links and parameters of a range, from its end to its start. What a construct holds is
scanned by `inner` before it is overwritten. The answer tells whether anything was found. -/
def inwardPass (inner : Span → Progress → Progress) (start stop : Nat) (p : Progress) : Progress × Bool :=
  if start < stop then
    let found : Option (Kind × Nat) :=
      match linkStart? p.board start stop with
      | some i => some (.link, i)
      | none => (parameterStart? p.board start stop).map (.parameter, ·)
    match found with
    | some (kind, i) =>
      if i < stop then
        let span : Span := ⟨i, stop⟩
        let marked := p.record kind span id
        let scanned := inner ⟨i + 2, stop - 2⟩ marked
        let masked := scanned.alter span (if kind = .link then maskMarkup else fun _ => '_')
        ((inwardPass inner start i masked).1, true)
      else (p, false)
    | none => inwardPass inner start (stop - 1) p
  else (p, false)
termination_by stop

/-- Passes over the links and parameters of a range until one finds nothing, or `rounds` are over. -/
def inwardPasses (inner : Span → Progress → Progress) (range : Span) : Nat → Progress → Progress
  | 0, p => p
  | rounds + 1, p =>
    match inwardPass inner range.start range.stop p with
    | (p, true) => inwardPasses inner range rounds p
    | (p, false) => p

/-- The pass over the double braces of a range, from its start to its end. The answer tells whether anything
was found. -/
def bracePass (stop i : Nat) (p : Progress) : Progress × Bool :=
  if i < stop then
    match braceEnd? p.board stop i with
    | some (kind, j) =>
      if i < j then
        let span : Span := ⟨i, j⟩
        let marked := match kind with
          | some kind => p.record kind span fun _ => 'X'
          | none => (p.alter span fun _ => '_').alter ⟨i + 1, i + 2⟩ fun _ => '\x7b'
        ((bracePass stop j marked).1, true)
      else (p, false)
    | none => bracePass stop (i + 1) p
  else (p, false)
termination_by stop - i

/-- Rounds of passes over a range until no braces are found, or `rounds` are over. -/
def markupRounds (inner : Span → Progress → Progress) (range : Span) : Nat → Progress → Progress
  | 0, p => p
  | rounds + 1, p =>
    let p := inwardPasses inner range (range.stop - range.start + 1) p
    match bracePass range.stop range.start p with
    | (p, true) => markupRounds inner range rounds p
    | (p, false) => p

/-- The links, parameters and braces of a range, with at most `depth` of them inside each other. -/
def scanRange : Nat → Span → Progress → Progress
  | 0, _, p => p
  | depth + 1, range, p =>
    let tags := startTags p.board range.stop range.start ++ endTags p.board range.stop range.start
    let p := tags.foldl (fun p tag => p.alter tag maskTagBrackets) p
    let p := markupRounds (scanRange depth) range (range.stop - range.start + 1) p
    tags.foldl (fun p tag => p.alter tag maskTagRest) p

/-! ## Comments and extension tags -/

/-- Whether two cells are the same letter of ASCII up to case. -/
def sameCell (a b : Char) : Bool := a.toLower = b.toLower

/-- Whether the cells from `i` on, and before `stop`, hold the name up to case. -/
def readsName (b : Board) (stop : Nat) : Nat → Text → Bool
  | _, [] => true
  | i, c :: rest =>
    i < stop &&
      match b[i]? with
      | some d => sameCell c d && readsName b stop (i + 1) rest
      | none => false

/-- The end of an extension tag's name, behind the bracket at `i`, for the first of the names that fits. -/
def tagNameEnd? (names : List Text) (b : Board) (stop i : Nat) : Option (Text × Nat) :=
  (names.find? fun name =>
    let j := i + 1 + name.length
    readsName b stop (i + 1) name && j < stop &&
      match b[j]? with
      | some c => isSpacing c || c = '>' || c = '/'
      | none => false).map fun name => (name, i + 1 + name.length)

/-- The end tag of an extension tag: the first one from `i` on, as the index of its start and of its end. -/
def extensionEnd? (name : Text) (b : Board) (stop i : Nat) : Option (Nat × Nat) :=
  if i < stop then
    let j := b.skip isSpacing stop (i + 2 + name.length)
    if b.reads stop i ['<', '/'] && readsName b stop (i + 2) name && j < stop && b.holds j '>' then some (i, j + 1)
    else extensionEnd? name b stop (i + 1)
  else none
termination_by stop - i

/-- The extension tag at `i` with one of the names: its content and its end. -/
def extensionAt? (names : List Text) (b : Board) (stop i : Nat) : Option (Option Span × Nat) := do
  guard (b.holds i '<')
  let (name, nameEnd) ← tagNameEnd? names b stop i
  let opened ← b.behindAngle? stop nameEnd
  if b.holds (opened - 2) '/' then return (none, opened)
  let (closing, behind) ← extensionEnd? name b stop opened
  return (some ⟨opened, closing⟩, behind)

/-- The end of the comment at `i`, which the range ends if nothing else does. -/
def commentEnd? (b : Board) (stop i : Nat) : Option Nat :=
  if b.reads stop i ['<', '!', '-', '-'] then
    match b.find? stop ['-', '-', '>'] (i + 4) with
    | some j => some (j + 3)
    | none => some stop
  else none

/-- The comments and extension tags from `i` up to `stop`, and the markup in those tags whose content is. -/
def scanTags (i stop : Nat) (p : Progress) : Progress :=
  if i < stop then
    match commentEnd? p.board stop i with
    | some j =>
      if i < j then scanTags j stop (p.record .comment ⟨i, j⟩ fun _ => absent)
      else p
    | none =>
      match extensionAt? closedTags p.board stop i with
      | some (_, j) =>
        if i < j then scanTags j stop (p.record .extension ⟨i, j⟩ fun _ => '_')
        else p
      | none =>
        match extensionAt? openTags p.board stop i with
        | some (content, j) =>
          if i < j then
            let span : Span := ⟨i, j⟩
            let marked := p.record .extension span id
            let inside := match content with
              | some c => if i < c.start ∧ c.stop ≤ stop then scanTags c.start c.stop marked else marked
              | none => marked
            let scanned := scanRange (j - i + 1) span inside
            scanTags j stop (scanned.alter span maskMarkup)
          else p
        | none => scanTags (i + 1) stop p
  else p
termination_by stop - i

end PageMarkup.Scan
