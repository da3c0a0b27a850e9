import CallOrigin.File.System
import CallOrigin.Text.Integer
import CallOrigin.Trace

/-! # Options of the command line

Options and the root may come in any order; two dashes end the options. Short options can be
written together, the last one with its value right behind it, and a long option takes its value
behind an equals sign or as the next argument. -/

namespace CallOrigin.CommandLine

inductive Format where
  | text
  | json
deriving Repr, DecidableEq

structure Options where
  root : String
  /-- Where the report goes, if not to its place in the root. -/
  output : Option String
  config : Config
  format : Format
  summary : Bool
  verbose : Bool
deriving Repr, DecidableEq

/-- Why arguments are not understood. -/
inductive UsageError where
  | unknownOption (name : String)
  | missingValue (name : String)
  | unexpectedValue (name : String)
  | badFormat (value : String)
  | badWorkers (value : String)
  | missingRoot
  | extraArgument (value : String)
deriving Repr, DecidableEq

def UsageError.message : UsageError → String
  | unknownOption name => "No such option: " ++ name
  | missingValue name => "Option " ++ name ++ " requires an argument."
  | unexpectedValue name => "Option " ++ name ++ " does not take a value."
  | badFormat value => "Invalid value for --format: " ++ value ++ " is neither text nor json."
  | badWorkers value => "Invalid value for --workers: " ++ value ++ " is no number above 0."
  | missingRoot => "Missing argument ROOT."
  | extraArgument value => "Got unexpected extra argument: " ++ value

/-- What arguments can ask for but a run. -/
inductive Halt where
  | help
  | usage (error : UsageError)
deriving Repr, DecidableEq

def Halt.status : Halt → Nat
  | help => 0
  | usage _ => 2

inductive Setting where
  | output
  | api
  | sourceExtension
  | markupExtension
  | event
  | codeBehind
  | workers
  | format
deriving Repr, DecidableEq

inductive Switch where
  | summary
  | noSummary
  | verbose
  | help
deriving Repr, DecidableEq

inductive Flag where
  | setting (s : Setting)
  | switch (s : Switch)
deriving Repr, DecidableEq

def longNames : List (String × Flag) :=
  [("--output", .setting .output), ("--api-method", .setting .api),
   ("--source-ext", .setting .sourceExtension), ("--markup-ext", .setting .markupExtension),
   ("--event-attribute", .setting .event), ("--code-behind-suffix", .setting .codeBehind),
   ("--workers", .setting .workers), ("--format", .setting .format),
   ("--summary", .switch .summary), ("--no-summary", .switch .noSummary),
   ("--verbose", .switch .verbose), ("--help", .switch .help)]

/-- The options by their short names. -/
def shortNames : List (Char × Flag) :=
  [('o', .setting .output), ('m', .setting .api), ('w', .setting .workers),
   ('f', .setting .format), ('v', .switch .verbose)]

/-- Arguments as far as they have been read. -/
structure Arguments where
  positional : List String
  settings : List (Setting × String)
  switches : List Switch
deriving Repr, DecidableEq

namespace Arguments

def empty : Arguments := ⟨[], [], []⟩

def set (a : Arguments) (s : Setting) (value : String) : Arguments :=
  { a with settings := a.settings ++ [(s, value)] }

def turn (a : Arguments) (s : Switch) : Arguments :=
  { a with switches := a.switches ++ [s] }

/-- Reads short options that are written together. The last may be one that takes a value,
    which is given with the characters left for it. -/
def readShort (a : Arguments) : List Char →
    Except UsageError (Arguments × Option (Setting × Char × List Char))
  | [] => .ok (a, none)
  | c :: rest =>
    match shortNames.lookup c with
    | none => .error (.unknownOption (String.ofList ['-', c]))
    | some (.switch s) => readShort (a.turn s) rest
    | some (.setting s) => .ok (a, some (s, c, rest))

/-- A long option and the value behind its equals sign. -/
def splitValue (arg : String) : String × Option String :=
  let cs := arg.toList
  let name := cs.takeWhile (· != '=')
  (String.ofList name,
    if name.length < cs.length then some (String.ofList (cs.drop (name.length + 1))) else none)

def read (a : Arguments) : List String → Except UsageError Arguments
  | [] => .ok a
  | arg :: rest =>
    if arg == "--" then .ok { a with positional := a.positional ++ rest }
    else
      match arg.toList with
      | '-' :: c :: more =>
        let (name, value) := splitValue arg
        match longNames.lookup name, value with
        | some (.setting s), some value => read (a.set s value) rest
        | some (.setting s), none =>
          match rest with
          | value :: rest => read (a.set s value) rest
          | [] => .error (.missingValue name)
        | some (.switch _), some _ => .error (.unexpectedValue name)
        | some (.switch s), none => read (a.turn s) rest
        | none, _ =>
          if c == '-' then .error (.unknownOption name)
          else
            match readShort a (c :: more) with
            | .error e => .error e
            | .ok (a, none) => read a rest
            | .ok (a, some (s, short, [])) =>
              match rest with
              | value :: rest => read (a.set s value) rest
              | [] => .error (.missingValue (String.ofList ['-', short]))
            | .ok (a, some (s, _, value)) => read (a.set s (String.ofList value)) rest
      | _ => read { a with positional := a.positional ++ [arg] } rest

def values (a : Arguments) (s : Setting) : List String :=
  (a.settings.filter (·.1 == s)).map (·.2)

/-- The values of an option, or others where it is not given. -/
def valuesOr (a : Arguments) (s : Setting) (others : List String) : List String :=
  if (a.values s).isEmpty then others else a.values s

def value? (a : Arguments) (s : Setting) : Option String :=
  (a.values s).getLast?

end Arguments

/-- A path as it is shown: without names that are empty or stand for the same directory, and a
    dot where nothing is left. Two slashes at the front, and no more, are kept. -/
def tidyPath (path : String) : String :=
  let slashes := (path.toList.takeWhile (· == '/')).length
  let root := if slashes == 0 then "" else if slashes == 2 then "//" else "/"
  let kept := (File.names path).filter fun name => !name.isEmpty && name != "."
  let text := root ++ "/".intercalate kept
  if text.isEmpty then "." else text

def Format.ofValue : Option String → Except UsageError Format
  | none | some "text" => .ok .text
  | some "json" => .ok .json
  | some other => .error (.badFormat other)

def workersOf (digitLimit : Option Nat) : Option String → Except UsageError (Option Int)
  | none => .ok none
  | some value =>
    match Text.integer? digitLimit value with
    | some n => if n < 1 then .error (.badWorkers value) else .ok (some n)
    | none => .error (.badWorkers value)

def Arguments.options (digitLimit : Option Nat) (a : Arguments) : Except UsageError Options := do
  let format ← Format.ofValue (a.value? .format)
  let workers ← workersOf digitLimit (a.value? .workers)
  match a.positional with
  | [] => .error .missingRoot
  | _ :: extra :: _ => .error (.extraArgument extra)
  | [root] =>
    .ok
      { root := tidyPath root
        output := (a.value? .output).map tidyPath
        config :=
          { apis := a.valuesOr .api Config.default.apis
            sourceExtensions := a.valuesOr .sourceExtension Config.default.sourceExtensions
            markupExtensions := a.valuesOr .markupExtension Config.default.markupExtensions
            events := a.valuesOr .event Config.default.events
            codeBehind := (a.value? .codeBehind).getD Config.default.codeBehind
            workers := workers }
        format := format
        summary := (a.switches.filter fun s => s == .summary || s == .noSummary).getLast?
          != some .noSummary
        verbose := a.switches.contains .verbose }

/-- The options that arguments spell, where a number has no more digits than the limit. Help is
    given before any value is looked at. -/
def Options.ofArguments (digitLimit : Option Nat) (args : List String) : Except Halt Options := do
  let a ← (Arguments.empty.read args).mapError .usage
  if a.switches.contains .help then .error .help
  else (a.options digitLimit).mapError .usage

end CallOrigin.CommandLine
