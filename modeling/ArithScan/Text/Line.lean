import ArithScan.Text.Offset

set_option autoImplicit false

namespace ArithScan.Text

def startLine (c : Char) (later : List Text) : List Text :=
  if c = '\n' then ['\n'] :: later
  else
    match later with
    | [] => [[c]]
    | line :: rest => (c :: line) :: rest

-- A line ends with its line feed and nothing else ends a line.
def lines (text : Text) : List Text :=
  text.foldr startLine []

def unlines (lines : List Text) : Text :=
  lines.flatMap fun line => line ++ ['\n']

def isLineEnd (c : Char) : Bool := c == '\r' || c == '\n'

def trimLineEnd (text : Text) : Text :=
  (text.reverse.dropWhile isLineEnd).reverse

@[simp] theorem start_line_flatten (c : Char) (later : List Text) :
    (startLine c later).flatten = c :: later.flatten := by
  unfold startLine
  split
  · rename_i feed
    simp [feed]
  · cases later <;> simp

theorem lines_cons (c : Char) (rest : Text) : lines (c :: rest) = startLine c (lines rest) := rfl

@[simp] theorem lines_flatten (text : Text) : text.lines.flatten = text := by
  induction text with
  | nil => rfl
  | cons c rest ih => rw [lines_cons, start_line_flatten, ih]

end ArithScan.Text
