import EventFilter.Text.Wrap

/-! A table of two columns, names and values, without rules between them. A column is as wide as the
widest line in it, and both give way if the terminal is too narrow for them. -/
namespace EventFilter.Text

def terminalWidth : Nat := 20000

/-- A text with an end of line, broken at the edge of the terminal. -/
def printWrapped (text : String) : String :=
  joinLines ((wrap terminalWidth .fold (.plain (withoutControls text.toList))).map (·.text))

/-- One blank on either side of a cell. -/
def margin : Nat := 2

/-- The columns of the widest line. More separators end a line here than when it is shown, and tabs,
which are not expanded yet, count for nothing. -/
def textWidth (cs : List Char) : Nat := ((splitLines cs).map width).foldl max 0

/-- The columns that a list of cells asks for, with their margin. -/
def columnWidth (limit : Nat) (cells : List (List Char)) : Nat :=
  min limit ((cells.map textWidth).foldl max 0 + margin)

/-- Half of a number; of two equally near halves the even one. -/
def halfEven (n : Nat) : Nat := if n % 4 = 3 then n / 2 + 1 else n / 2

/-- The wider column gives way first, down to the other; what is still missing is shared. -/
def collapse (limit left right : Nat) : Nat × Nat :=
  let excess := left + right - limit
  let step := min excess (max left right - min left right)
  let (left, right) := if right < left then (left - step, right) else (left, right - step)
  let rest := excess - step
  (left - halfEven rest, right - (rest - halfEven rest))

/-- A line in its cell. It is filled up as a whole, and again stretch by stretch, since a joiner at
the end of one swallows the first blank that is added. -/
def cellLine (inner : Nat) (line : Styled) : List Char :=
  let stretches := fitStretches inner (line.padTo inner).stretches
  ' ' :: stretches.flatten ++ [' '] ++ blanks (inner - stretchesWidth stretches)

/-- The lines of a cell; one that has no columns shows nothing, not even what is wrong with it. -/
def cellLines (inner : Nat) (overflow : Overflow) (cell : Styled) :
    Except IntegerError (List (List Char)) :=
  if inner = 0 then .ok []
  else
    let lines := wrap inner overflow cell
    match lines.findSome? Styled.fault? with
    | some fault => .error fault
    | none => .ok (lines.map (cellLine inner))

/-- Two cells side by side, the shorter one filled up with blank lines. -/
def rowLines (left right : Nat) : List (List Char) → List (List Char) → List (List Char)
  | [], [] => []
  | a :: as, [] => (a ++ blanks right) :: rowLines left right as []
  | [], b :: bs => (blanks left ++ b) :: rowLines left right [] bs
  | a :: as, b :: bs => (a ++ b) :: rowLines left right as bs

def row (left right : Nat) (name value : Styled) : Except IntegerError (List (List Char)) := do
  let name ← cellLines (left - margin) .ellipsis name
  let value ← cellLines (right - margin) .fold value
  match rowLines left right name value with
  | [] => return [blanks (left + right)]
  | lines => return lines

/-- The widths of both columns. -/
def layout (rows : List (List Char × List Char)) : Nat × Nat :=
  let widths := fun left right =>
    (columnWidth left (rows.map (·.1)), columnWidth right (rows.map (·.2)))
  let (left, right) := widths terminalWidth terminalWidth
  if left + right ≤ terminalWidth then (left, right)
  else
    let (left, right) := collapse terminalWidth left right
    widths left right

/-- Only the names are styled. -/
def table (rows : List (Styled × String)) : Except IntegerError String := do
  let rows := rows.map fun (name, value) => (name, withoutControls value.toList)
  let (left, right) := layout (rows.map fun (name, value) => (name.text, value))
  let lines ← rows.mapM fun (name, value) => row left right name (.plain value)
  return joinLines lines.flatten

/-- Columns that are too wide together fill the terminal exactly afterwards. -/
theorem collapse_add {limit left right : Nat} (h : limit ≤ left + right) :
    (collapse limit left right).1 + (collapse limit left right).2 = limit := by
  simp only [collapse, halfEven]
  split <;> split <;> simp only [] <;> omega

theorem columnWidth_le (limit : Nat) (cells : List (List Char)) :
    columnWidth limit cells ≤ limit := Nat.min_le_left _ _

end EventFilter.Text
