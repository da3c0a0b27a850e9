import CallOrigin.Calls.Graph
import CallOrigin.File.Error

/-! # Events

What happens during a trace and is worth a line of the log. -/

namespace CallOrigin

inductive Level where
  | debug
  | info
  | warning
deriving Repr, DecidableEq

def Level.text : Level → String
  | debug => "DEBUG"
  | info => "INFO"
  | warning => "WARNING"

/-- Why a source file contributes nothing. -/
inductive IndexFault where
  | unreadable (refusal : File.Refusal)
  | frozen (error : FrozenError)
deriving Repr, DecidableEq

def IndexFault.message (path : String) : IndexFault → String
  | unreadable refusal => refusal.message path
  | frozen error => error.message

/-- What happened. -/
inductive Event where
  | scanning (root : String) (sources pages : Nat)
  | indexed (calls callees edges : Nat)
  | syntaxErrors (path : String)
  | notIndexed (path : String) (fault : IndexFault)
  | notRead (path : String) (refusal : File.Refusal)
  /-- A way up has come back to a method that it had passed. -/
  | cycle (start top : Method)
  | unbound (handler : String)
deriving Repr, DecidableEq

namespace Event

def level : Event → Level
  | scanning .. | indexed .. => .info
  | syntaxErrors _ | cycle .. | unbound _ => .debug
  | notIndexed .. | notRead .. => .warning

def origin : Event → String
  | scanning .. | indexed .. => "api_trace.pipeline"
  | syntaxErrors _ => "api_trace.indexer"
  | cycle .. => "api_trace.resolver"
  | unbound _ | notRead .. => "api_trace.inputs.markup"
  | notIndexed .. => "api_trace.inputs.directory_scanning"

def message : Event → String
  | scanning root sources pages =>
    "Scanning " ++ root ++ ": " ++ toString sources ++ " source files, " ++ toString pages
      ++ " markup files"
  | indexed calls callees edges =>
    "Found " ++ toString calls ++ " API calls; caller graph has " ++ toString callees
      ++ " callees and " ++ toString edges ++ " edges"
  | syntaxErrors path => "Syntax errors in " ++ path ++ "; indexing the recovered tree"
  | notIndexed path fault => "Failed to index " ++ path ++ ": " ++ fault.message path
  | notRead path refusal => "Failed to read markup " ++ path ++ ": " ++ refusal.message path
  | cycle start top =>
    "Cycle while ascending from " ++ start.text ++ "; stopping at " ++ top.text
  | unbound handler => "No markup control bound to " ++ handler

def line (e : Event) : String :=
  "[" ++ e.level.text ++ "] " ++ e.origin ++ ": " ++ e.message

end Event

/-- A value and what happened on the way to it. -/
structure Logged (α : Type) where
  value : α
  events : List Event
deriving Repr, DecidableEq

namespace Logged

variable {α β : Type}

/-- A value on the way to which nothing happened. -/
def quiet (value : α) : Logged α := ⟨value, []⟩

/-- Goes on from a value; what happens then comes behind what has happened. -/
def andThen (x : Logged α) (f : α → Logged β) : Logged β :=
  let y := f x.value
  ⟨y.value, x.events ++ y.events⟩

/-- Goes through a list with a state, and gives the answers in order with the last state. -/
def mapState {σ : Type} (f : σ → α → Logged (β × σ)) (s : σ) : List α → Logged (List β × σ)
  | [] => quiet ([], s)
  | a :: rest =>
    (f s a).andThen fun (b, s) =>
      (mapState f s rest).andThen fun (bs, s) => quiet (b :: bs, s)

end Logged

end CallOrigin
