import CallOrigin.Calls.ApiCall
import CallOrigin.Console.Terminal

/-! # The summary

A table of the calls on a console. -/

namespace CallOrigin.Report

def title (count : Nat) : String :=
  "API calls (" ++ toString count ++ ")"

def headings : List String :=
  ["API method", "Endpoint", "Top-level method", "UI text"]

/-- What the cells of a call say, as markup. The argument and the text of the control are meant to
    be shown as they are; names are taken for markup. -/
def cellMarkup (t : Terminal) (c : ApiCall) : List String :=
  let control :=
    match c.control with
    | some control => t.escape control.text
    | none => "[dim]not found[/dim]"
  [c.api, t.escape c.endpoint, c.topOrCaller.name, control]

def table (t : Terminal) (calls : List ApiCall) : Table :=
  calls.foldl (fun table c => table.addRow (cellMarkup t c))
    (Table.empty (title calls.length) headings)

def printSummary (t : Terminal) (calls : List ApiCall) : Except ConsoleFault String :=
  t.printTable (table t calls)

end CallOrigin.Report
