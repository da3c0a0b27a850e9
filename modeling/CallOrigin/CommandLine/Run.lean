import CallOrigin.CSharp.Parse
import CallOrigin.CommandLine.Options
import CallOrigin.Console.Wide
import CallOrigin.File.Report
import CallOrigin.Report.Json
import CallOrigin.Report.Summary
import CallOrigin.Report.Text

/-! # A run of the command line

A run traces a root, writes the report and says where it is. -/

namespace CallOrigin.CommandLine

open CallOrigin.File

/-- What a run relies on besides the file system. -/
structure Surroundings where
  /-- The options that arguments spell. -/
  arguments : List String → Except Halt Options
  parse : Parser
  terminal : Terminal
  /-- How many digits a number may have to be written, where that is limited. -/
  digitLimit : Option Nat
  /-- How the writing of a file fails, if it does. -/
  writeFault : Option WriteFault

/-- What stops a run that has begun. -/
inductive Failure where
  /-- The trace fails for a reason that is not the root. -/
  | trace (error : TraceError)
  | digits (error : Json.DigitError)
  | write (refusal : Refusal)
  | console (fault : ConsoleFault)
deriving Repr, DecidableEq

/-- The words for what stops a run that writes its report to a path. -/
def Failure.message (path : String) : Failure → String
  | trace error => error.message
  | digits error => error.message
  | write refusal => refusal.message path
  | console fault => fault.message

/-- What comes of a run that has begun. -/
structure Outcome where
  status : Nat
  output : String
  log : List Event
  /-- What stopped the run, unless it came to its end or reported the root itself. -/
  failure : Option Failure
  files : FileSystem

def reportName : String := "ApiTraceReport.txt"

def Options.reportPath (o : Options) : String :=
  o.output.getD (joinPath o.root reportName)

def Options.report (o : Options) (digitLimit : Option Nat) (calls : List ApiCall) :
    Except Json.DigitError String :=
  match o.format with
  | .text => .ok (Report.text calls)
  | .json => Report.json digitLimit calls

/-- The events that are logged: warnings, and all others if that is asked for. -/
def Options.logged (o : Options) (events : List Event) : List Event :=
  events.filter fun e => o.verbose || e.level == .warning

def Options.completion (o : Options) : String :=
  "Report saved to: " ++ o.reportPath

/-- What is shown once the report is there: the summary if asked for, and where the report is.
    The second part is what went wrong, after what had been shown by then. -/
def Options.closing (o : Options) (t : Terminal) (calls : List ApiCall) :
    String × Option ConsoleFault :=
  let summary := if o.summary then Report.printSummary t calls else .ok ""
  match summary with
  | .error fault => ("", some fault)
  | .ok table =>
    match t.print o.completion with
    | .error fault => (table, some fault)
    | .ok line => (table ++ line, none)

/-- Writes a report and shows that it is there. -/
def Options.deliver (o : Options) (s : Surroundings) (fs : FileSystem) (log : List Event)
    (calls : List ApiCall) (report : String) : Outcome :=
  match fs.writeReport s.writeFault o.reportPath (report.toList.map Char.toNat) with
  | ⟨files, some refusal⟩ => ⟨1, "", log, some (.write refusal), files⟩
  | ⟨files, none⟩ =>
    match o.closing s.terminal calls with
    | (output, none) => ⟨0, output, log, none, files⟩
    | (output, some fault) => ⟨1, output, log, some (.console fault), files⟩

def Options.run (o : Options) (s : Surroundings) (fs : FileSystem) : Outcome :=
  match trace s.parse fs o.root o.config with
  | .error (.root e) =>
    match s.terminal.print ("[red]Error: " ++ s.terminal.escape e.message ++ "[/red]") with
    | .ok line => ⟨1, line, [], none, fs⟩
    | .error fault => ⟨1, "", [], some (.console fault), fs⟩
  | .error e => ⟨1, "", [], some (.trace e), fs⟩
  | .ok result =>
    let log := o.logged result.events
    match o.report s.digitLimit result.calls with
    | .error e => ⟨1, "", log, some (.digits e), fs⟩
    | .ok report => o.deliver s fs log result.calls report

/-- Runs the command line. Arguments that do not ask for a run leave everything as it is. -/
def run (s : Surroundings) (fs : FileSystem) (args : List String) : Except Halt Outcome :=
  (s.arguments args).map fun o => o.run s fs

def standardDigitLimit : Option Nat := some 4300

/-- What the program itself relies on. -/
def Surroundings.standard : Surroundings where
  arguments := Options.ofArguments standardDigitLimit
  parse := CSharp.parse
  terminal := Console.wide
  digitLimit := standardDigitLimit
  writeFault := none

end CallOrigin.CommandLine
