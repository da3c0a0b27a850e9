import CallOrigin.Calls.Ascent
import CallOrigin.Calls.Extraction
import CallOrigin.File.Search
import CallOrigin.Markup.Index
import CallOrigin.Syntax.Tree

/-! # A trace

All sources below a root are indexed first, and the graph is frozen; then every call of the API is
followed up to its outermost method, and the control bound to that method is looked up. -/

namespace CallOrigin

open CallOrigin.File

/-- What a trace looks for. -/
structure Config where
  apis : List String
  sourceExtensions : List String
  markupExtensions : List String
  /-- The attributes that bind a control to a handler. -/
  events : List String
  /-- How the paths of code-behind files end. -/
  codeBehind : String
  /-- How many files may be indexed at once, where that is limited. -/
  workers : Option Int
deriving Repr, DecidableEq

def Config.default : Config where
  apis := ["GET_JWT", "POST_JWT", "PUT_JWT", "PATCH_JWT", "DELETE_JWT", "ObtenhaBearerToken"]
  sourceExtensions := [".cs"]
  markupExtensions := [".aspx"]
  events := ["OnClick"]
  codeBehind := ".aspx.cs"
  workers := none

inductive TraceError where
  | root (error : RootError)
  | noWorkers
deriving Repr, DecidableEq

def TraceError.message : TraceError → String
  | root error => error.message
  | noWorkers => "max_workers must be greater than 0"

/-- What a trace found. -/
structure TraceResult where
  root : String
  calls : List ApiCall
  graph : CallerGraph
  sources : List String
  pages : List String
  events : List Event

/-! ## Indexing -/

/-- Indexes one source file into a graph. A file that cannot be read, or that the graph refuses,
    contributes nothing. -/
def indexFile (parse : Parser) (apis : List String) (fs : FileSystem) (g : CallerGraph)
    (path : String) : Logged (List ApiCall × CallerGraph) :=
  match fs.readText path with
  | .error refusal => ⟨([], g), [.notIndexed path (.unreadable refusal)]⟩
  | .ok source =>
    let tree := parse source
    let noted := if tree.hasError then [.syntaxErrors path] else []
    match g.addExtraction (extract apis path (Utf8.encode source) tree.root) with
    | .ok (g, calls) => ⟨(calls, g), noted⟩
    | .error e => ⟨([], g), noted ++ [.notIndexed path (.frozen e)]⟩

/-- Indexes source files, freezes the graph, and gives the calls of the API by place. -/
def indexFiles (parse : Parser) (apis : List String) (fs : FileSystem) (paths : List String) :
    Logged (List ApiCall × CallerGraph) :=
  (Logged.mapState (indexFile parse apis fs) CallerGraph.empty paths).andThen fun (calls, g) =>
    let calls := ApiCall.sorted calls.flatten
    ⟨(calls, g.freeze), [.indexed calls.length g.size g.edgeCount]⟩

/-- Reads markup files; one that cannot be read is left out. -/
def readPages (fs : FileSystem) : (paths : List String) → Logged (List Markup.Page)
  | [] => .quiet []
  | path :: rest =>
    match fs.readText path with
    | .ok content => (readPages fs rest).andThen fun pages => .quiet (⟨path, content⟩ :: pages)
    | .error refusal =>
      Logged.andThen ⟨(), [.notRead path refusal]⟩ fun _ => readPages fs rest

/-! ## Resolving -/

/-- The way up from a method. That it comes back to a method is an event. -/
def topLevel (g : CallerGraph) (codeBehind : String) (start : Method) : Logged Method :=
  let way := g.ascend codeBehind start
  ⟨way.top, if way.cyclic then [.cycle start way.top] else []⟩

/-- Fills in the outermost method of a call and the control bound to it. -/
def resolveCall (g : CallerGraph) (codeBehind : String) (x : Markup.Index) (c : ApiCall) :
    Logged (ApiCall × Markup.Index) :=
  (topLevel g codeBehind c.caller).andThen fun top =>
    (x.find top.name).andThen fun (control, x) =>
      .quiet ({ c with top := some top, control := control }, x)

/-- Fills in the outermost methods of calls and the controls bound to them. -/
def resolveCalls (g : CallerGraph) (codeBehind : String) (x : Markup.Index)
    (calls : List ApiCall) : Logged (List ApiCall × Markup.Index) :=
  Logged.mapState (resolveCall g codeBehind) x calls

/-! ## The whole trace -/

/-- Traces every call of the API below a root that can be scanned. -/
def traceChecked (parse : Parser) (fs : FileSystem) (root : String) (config : Config) :
    TraceResult :=
  let sources := fs.findFiles root config.sourceExtensions
  let pages := fs.findFiles root config.markupExtensions
  let found := (indexFiles parse config.apis fs sources).andThen fun (calls, g) =>
    (readPages fs pages).andThen fun contents =>
      (resolveCalls g config.codeBehind (Markup.Index.ofPages config.events contents) calls).andThen
        fun (calls, _) => .quiet (calls, g)
  ⟨root, found.value.1, found.value.2, sources, pages,
    .scanning root sources.length pages.length :: found.events⟩

/-- Traces every call of the API below a root. -/
def trace (parse : Parser) (fs : FileSystem) (root : String) (config : Config) :
    Except TraceError TraceResult :=
  match fs.checkRoot root none with
  | .error e => .error (.root e)
  | .ok () =>
    if config.workers.any (· < 1) then .error .noWorkers
    else .ok (traceChecked parse fs root config)

end CallOrigin
