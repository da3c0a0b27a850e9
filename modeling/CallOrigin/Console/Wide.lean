import CallOrigin.Console.Markup
import CallOrigin.Console.Terminal
import CallOrigin.Text.CellWidth

/-! # A wide console

A console that has room for every line, and shows tables with ruled lines. -/

namespace CallOrigin.Console

open CallOrigin.Text

abbrev Cell := List (List Char)

/-- The lines of a cell. -/
def cell (text : String) : Cell := lines text.toList

/-- The width of a column: that of its widest line. -/
def columnWidth (cells : List Cell) : Nat :=
  (cells.flatten.map Text.cells).foldl max 0

def padded (width : Nat) (line : List Char) : List Char :=
  line ++ List.replicate (width - Text.cells line) ' '

def rule (left fill cross right : Char) (widths : List Nat) : List Char :=
  left :: [cross].intercalate (widths.map fun w => List.replicate (w + 2) fill) ++ [right]

def rowLine (bar : Char) (widths : List Nat) (cells : List (List Char)) : List Char :=
  bar :: (widths.zip cells).flatMap fun (w, line) => ' ' :: padded w line ++ [' ', bar]

/-- The lines of a row: as many as its highest cell has. -/
def rowLines (bar : Char) (widths : List Nat) (cells : List Cell) : List (List Char) :=
  let height := (cells.map List.length).foldl max 0
  (List.range height).map fun i => rowLine bar widths (cells.map fun c => c.getD i [])

def titleLine (width : Nat) (title : List Char) : List Char :=
  padded width (List.replicate ((width - Text.cells title) / 2) ' ' ++ title)

def tableLines (table : Table) : List (List Char) :=
  let widths := table.columns.map fun c => columnWidth ((c.heading :: c.cells).map cell)
  let top := rule '┏' '━' '┳' '┓' widths
  titleLine top.length table.title.toList :: top
    :: rowLines '┃' widths (table.columns.map (cell ·.heading))
    ++ rule '┡' '━' '╇' '┩' widths
    :: table.rows.flatMap (fun row => rowLines '│' widths (row.map cell))
    ++ [rule '└' '─' '┴' '┘' widths]

/-- A console of 400 columns for which no text is too wide, and that knows no signs. -/
def wide : Terminal where
  width := 400
  escape := escape
  isSign := fun _ => false
  read := fun markup => ((shown markup).map String.ofList).mapError MarkupError.message
  layText := fun text => .ok (text ++ "\n")
  layTable := fun table =>
    .ok (String.ofList ((tableLines table).flatMap (· ++ ['\n'])))

end CallOrigin.Console
