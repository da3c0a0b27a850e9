/-! # Consoles

A console is given markup: text with tags for styles. What it makes of the tags, and how the text
comes out, is its own matter. -/

namespace CallOrigin

/-- Why a console does not show something. -/
inductive ConsoleFault where
  /-- It cannot be read as markup. -/
  | markup (message : String)
  /-- It cannot be put out. -/
  | device (message : String)
deriving Repr, DecidableEq

def ConsoleFault.message : ConsoleFault → String
  | markup message => message
  | device message => message

/-! ## Tables -/

structure Column where
  heading : String
  cells : List String
deriving Repr, DecidableEq

def Column.add (c : Column) (cell : String) : Column :=
  { c with cells := c.cells ++ [cell] }

structure Table where
  title : String
  columns : List Column
deriving Repr, DecidableEq

namespace Table

def empty (title : String) (headings : List String) : Table :=
  ⟨title, headings.map (⟨·, []⟩)⟩

/-- Puts a cell below each column. -/
def addRow (t : Table) (cells : List String) : Table :=
  { t with columns := t.columns.zipWith Column.add cells }

def height (t : Table) : Nat :=
  (t.columns.map (·.cells.length)).foldl max 0

/-- The rows below the headings. -/
def rows (t : Table) : List (List String) :=
  (List.range t.height).map fun i => t.columns.filterMap (·.cells[i]?)

end Table

/-! ## Output -/

/-- A console. All texts that it gives are without their styles. -/
structure Terminal where
  /-- How many characters a line has room for. -/
  width : Nat
  /-- Markup that is meant to show a text as it is. -/
  escape : String → String
  /-- Whether a name between two colons stands for a sign. -/
  isSign : String → Bool
  /-- The text that markup stands for, or what is wrong with the markup. -/
  read : String → Except String String
  /-- What comes out for a text, unless the device fails. -/
  layText : String → Except String String
  layTable : Table → Except String String

namespace Terminal
variable (t : Terminal)

def readMarkup (markup : String) : Except ConsoleFault String :=
  (t.read markup).mapError .markup

def print (markup : String) : Except ConsoleFault String := do
  (t.layText (← t.readMarkup markup)).mapError .device

def readColumn (c : Column) : Except ConsoleFault Column := do
  return ⟨← t.readMarkup c.heading, ← c.cells.mapM t.readMarkup⟩

/-- A table with the texts that its markup stands for. The columns are read before the title. -/
def readTable (table : Table) : Except ConsoleFault Table := do
  let columns ← table.columns.mapM t.readColumn
  return ⟨← t.readMarkup table.title, columns⟩

def printTable (table : Table) : Except ConsoleFault String := do
  (t.layTable (← t.readTable table)).mapError .device

end Terminal

end CallOrigin
