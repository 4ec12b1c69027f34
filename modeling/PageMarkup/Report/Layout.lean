import PageMarkup.Fault
import PageMarkup.Text.CellWidth

/-!
# Layouts

A value is shown on one line if it fits there, in cells of a terminal. Otherwise its outermost group is opened, each
of its items gets lines of its own, and so on with the items.
-/
namespace PageMarkup

/-- What is shown of a value: a text, or labelled items between an opening and a closing text. In a group that
is `single`, one item alone has a comma behind it. -/
inductive Layout where
  | atom (s : Text)
  | group (opening closing : Text) (single : Bool) (items : List (Text × Layout))

namespace Layout

mutual

def flat : Layout → Text
  | atom s => s
  | group opening closing single items =>
    opening ++ flatItems items ++ (if single && items.length = 1 then [','] else []) ++ closing

def flatItems : List (Text × Layout) → Text
  | [] => []
  | (label, item) :: rest => label ++ flat item ++ (if rest.isEmpty then [] else [',', ' ']) ++ flatItems rest

end

mutual

/-- The lines of a layout. `behind` is what separates it from the next item, which is written unless the layout
is the last one, but takes room in any case. -/
def lines (width indent : Nat) (label behind : Text) (isLast : Bool) : Layout → List Text
  | atom s => [List.replicate indent ' ' ++ label ++ s ++ if isLast then [] else behind.take 1]
  | group opening closing single items =>
    let margin := List.replicate indent ' '
    let ending := if isLast then [] else behind.take 1
    let whole := label ++ flat (group opening closing single items)
    if items.isEmpty || indent + Text.cells whole + behind.length ≤ width then [margin ++ whole ++ ending]
    else
      let alone := single && items.length = 1
      [margin ++ label ++ opening] ++ itemLines width (indent + 4) alone items ++ [margin ++ closing ++ ending]

/-- The lines of the items of a group. An item that is `alone` keeps its comma. -/
def itemLines (width indent : Nat) (alone : Bool) : List (Text × Layout) → List Text
  | [] => []
  | (label, item) :: rest =>
    lines width indent label (if alone then [','] else [',', ' ']) (rest.isEmpty && !alone) item ++
      itemLines width indent alone rest

end

/-- Whether the character only controls a terminal. -/
def isTerminalControl (c : Char) : Bool := ['\x07', '\x08', '\x0b', '\x0c', '\x0d'].contains c

/-- The width of a layout unless another one is asked for. -/
def defaultWidth : Nat := 80

/-- The layout as a text whose lines have the given width as far as it can be opened. -/
def render (layout : Layout) (width : Nat := defaultWidth) : Text :=
  (Text.joinWith ['\n'] (layout.lines width 0 [] [] false)).filter fun c => !isTerminalControl c

def fields (name : Text) (items : List (Text × Layout)) : Layout :=
  group (name ++ ['(']) [')'] false (items.map fun (key, item) => (key ++ ['='], item))

def list (items : List Layout) : Layout := group ['['] [']'] false (items.map fun item => ([], item))

end Layout

/-- What is laid out for a value that is written out as `written`, if it can be. -/
def Layout.ofWritten (written : Except Unwritable Text) : Layout :=
  match written with
  | .ok s => .atom s
  | .error why => .atom ("<repr-error ".toList ++ Text.quoted why.message ++ ['>'])

namespace Datum

variable {α : Type} [Leaf α]

mutual

/-- The layout of a datum whose leaves are laid out by `leafLayout`. -/
def layoutWith (leafLayout : α → Layout) : Datum α → Layout
  | .list items => .group ['['] [']'] false (layoutItems leafLayout items)
  | .tuple items => .group ['('] [')'] true (layoutItems leafLayout items)
  | .record entries => .group ['\x7b'] ['\x7d'] false (layoutEntries leafLayout entries)
  | .leaf a => leafLayout a
  | .null => .atom "None".toList
  | .bool b => .atom (Text.ofBool b)
  | .int n => .ofWritten (shownInt n)
  | .real negative digits places => .atom (Text.realNumeral negative digits places)
  | .text s => .atom (Text.quoted s)

def layoutItems (leafLayout : α → Layout) : List (Datum α) → List (Text × Layout)
  | [] => []
  | d :: rest => ([], layoutWith leafLayout d) :: layoutItems leafLayout rest

def layoutEntries (leafLayout : α → Layout) : List (Text × Datum α) → List (Text × Layout)
  | [] => []
  | (key, d) :: rest => (Text.quoted key ++ [':', ' '], layoutWith leafLayout d) :: layoutEntries leafLayout rest

end

end Datum

def plainLayout (d : Plain) : Layout := d.layoutWith Empty.elim

/-- The layout of one of the forms of values beyond the plain ones. -/
def Special.layout : Special → Layout
  | .seed value key source =>
    .fields "ParamSeed".toList
      [("value".toList, plainLayout value), ("key".toList, plainLayout key), ("text".toList, plainLayout source)]
  | s => .ofWritten (Leaf.shown s)

def Value.layout (v : Value) : Layout := v.layoutWith Special.layout

/-- The value laid out in the width that another value stands for, or in the default one. The width is not asked for
if there is nothing to be opened. -/
def Value.laidOut (v : Value) (width : Value := .null) : Except Fault Text :=
  match width, v.layout with
  | .null, layout => .ok layout.render
  | width, .group opening closing single (item :: items) =>
    match width.number? with
    | some (digits, places) =>
      .ok ((Layout.group opening closing single (item :: items)).render (digits / (Nat.pow 10 places : Nat)).toNat)
    | none => .error (.notOrdered width.kind)
  | _, layout => .ok layout.render

end PageMarkup
