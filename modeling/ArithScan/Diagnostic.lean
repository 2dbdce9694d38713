import ArithScan.Fault
import ArithScan.LexError
import ArithScan.Location
import ArithScan.Text.CharClass
import ArithScan.Text.Tab

set_option autoImplicit false

namespace ArithScan

-- The line of a diagnostic, cut at the column it points to. The indentation of
-- the line is not shown, but nothing from that column on is taken for it.
structure Excerpt where
  number : Nat
  before : Text
  after : Text
deriving DecidableEq

def Location.excerpt (location : Location) : Excerpt :=
  ⟨location.number, (location.line.take location.column).dropWhile isWhiteSpace,
    location.line.drop location.column⟩

namespace Excerpt

def fieldLimit : Nat := 65535

def numberText (excerpt : Excerpt) : Text := Text.decimal excerpt.number

def gutter (excerpt : Excerpt) : Text :=
  ['|'].leftpad (excerpt.numberText.length + 2) ' '

def echo (excerpt : Excerpt) : Text :=
  (excerpt.before ++ excerpt.after).trimLineEnd.expandTabs

def caretField (excerpt : Excerpt) : Except Fault Text :=
  let width := excerpt.before.columns + 1
  if width ≤ fieldLimit then .ok (['^'].leftpad width '-') else .error .fieldTooWide

def lines (excerpt : Excerpt) : Except Fault (List Text) :=
  excerpt.caretField.map fun field =>
    [excerpt.gutter, excerpt.numberText ++ " | ".toList ++ excerpt.echo, excerpt.gutter ++ [' '] ++ field]

end Excerpt

namespace LexError

def headline (error : LexError) : Text :=
  "Error: ".toList ++ name ++
    match error.tip? with
    | none => []
    | some tip => " (".toList ++ tip ++ [')']

def render (error : LexError) (source origin : Text) : Except Fault Text :=
  let heading := [error.headline, "-> ".toList ++ origin]
  match source.locationAt? error.position with
  | none => .ok (Text.unlines heading)
  | some location => location.excerpt.lines.map fun shown => Text.unlines (heading ++ shown)

end LexError

end ArithScan
