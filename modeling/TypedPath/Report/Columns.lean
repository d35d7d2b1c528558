/-! Text in columns. A tab ends a cell, and the cells of neighbouring lines that stand in the same
place are made equally wide; the last cell of a line is in no column. -/
namespace TypedPath.Columns

/-- Blanks between a column and the next. -/
def gap : Nat := 2

/-- The cells of a line. -/
def cells (line : List Char) : List (List Char) :=
  line.splitOnP fun c => c = '\t' || c = '\x0b'

/-- A line whose first cells are as wide as `widths` says. -/
def renderLine : List Nat → List (List Char) → List Char
  | w :: widths, cell :: c :: rest =>
    cell ++ List.replicate (w - cell.length) ' ' ++ renderLine widths (c :: rest)
  | _, cells => cells.flatten

/-- The width of a column. -/
def width (column : Nat) (lines : List (List (List Char))) : Nat :=
  (lines.map fun l => (l[column]?.getD []).length + gap).foldl max 0

/-- Lines of which the first columns are already settled. A block of lines that have a further
column gets its width before the columns to its right. -/
def renderLines : Nat → List Nat → List (List (List Char)) → List (List Char)
  | 0, widths, lines => lines.map (renderLine widths)
  | fuel + 1, widths, lines =>
    let column := widths.length
    let hasColumn (l : List (List Char)) : Bool := column + 1 < l.length
    (lines.splitBy fun a b => hasColumn a == hasColumn b).flatMap fun block =>
      match block with
      | l :: _ =>
        if hasColumn l then renderLines fuel (widths ++ [width column block]) block
        else block.map (renderLine widths)
      | [] => []

/-- Lines that are aligned with each other. -/
def aligned (lines : List (List Char)) : List Char :=
  let rows := lines.map cells
  let columns := (rows.map (·.length)).foldl max 0
  ((renderLines columns [] rows).map (· ++ ['\n'])).flatten

/-- Aligns a text of whole lines. A form feed ends a line and the columns with it. -/
def render (text : String) : String :=
  let blocks := text.toList.splitOnP (· = '\x0c')
  let wholeLines (block : List Char) : List (List Char) :=
    let lines := block.splitOn '\n'
    if lines.getLast? = some [] then lines.dropLast else lines
  String.ofList (blocks.map fun b => aligned (wholeLines b)).flatten

end TypedPath.Columns
