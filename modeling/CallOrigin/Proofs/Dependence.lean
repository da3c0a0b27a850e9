import CallOrigin.Proofs.Lookups
import CallOrigin.Proofs.Provenance

/-! # What a trace depends on

A trace is known by the files that it finds and by the texts that it reads from them. Which names
belong to the API decides which calls are reported, and nothing else: the graph is the same for
every API, and so is what is found out about a call.
-/

namespace CallOrigin

open CallOrigin.File

/-- A call with its outermost method and with what is bound to that. -/
def ApiCall.resolved (g : CallerGraph) (codeBehind : String) (bound : String → Option Control)
    (c : ApiCall) : ApiCall :=
  { c with
    top := some (g.ascend codeBehind c.caller).top
    control := bound (g.ascend codeBehind c.caller).top.name }

section
variable (parse : Parser) (fs : FileSystem) (root : String) (config : Config)

theorem traceChecked_graph :
    (traceChecked parse fs root config).graph =
      (CallerGraph.empty.withEdges ((fs.findFiles root config.sourceExtensions).flatMap
        fun path => (contribution parse config.apis fs path).edges)).freeze := by
  simp only [traceChecked, Logged.value_andThen, Logged.value_quiet, indexFiles_value]

theorem traceChecked_calls :
    (traceChecked parse fs root config).calls =
      (ApiCall.sorted ((fs.findFiles root config.sourceExtensions).flatMap
        fun path => (contribution parse config.apis fs path).calls)).map
          (ApiCall.resolved (traceChecked parse fs root config).graph config.codeBehind
            (Markup.search config.events
              (readPages fs (fs.findFiles root config.markupExtensions)).value)) := by
  simp only [traceChecked, Logged.value_andThen, Logged.value_quiet, indexFiles_value]
  exact (Markup.Remembers.initial _ _).resolveCalls List.not_mem_nil _ _ _

variable {parse fs root config} in
theorem trace_eq_ok_iff {result : TraceResult} :
    trace parse fs root config = .ok result ↔
      fs.checkRoot root none = .ok () ∧ config.workers.any (· < 1) = false ∧
        result = traceChecked parse fs root config := by
  rw [trace]
  cases fs.checkRoot root none with
  | error e => simp
  | ok _ => cases config.workers.any (· < 1) <;> simp [eq_comm]

end

/-! ## Texts -/

section
variable {fs fs' : FileSystem}

theorem contribution_congr (parse : Parser) (apis : List String) {path : String}
    (same : ∀ text, fs.readText path = .ok text ↔ fs'.readText path = .ok text) :
    contribution parse apis fs path = contribution parse apis fs' path := by
  unfold contribution
  cases read : fs.readText path with
  | ok text => rw [(same text).1 read]
  | error refusal =>
      cases read' : fs'.readText path with
      | error refusal' => rfl
      | ok text => cases read.symm.trans ((same text).2 read')

theorem readPages_value_congr {paths : List String}
    (same : ∀ path ∈ paths, ∀ text, fs.readText path = .ok text ↔ fs'.readText path = .ok text) :
    (readPages fs paths).value = (readPages fs' paths).value := by
  induction paths with
  | nil => rfl
  | cons path paths ih =>
      have here := same path List.mem_cons_self
      have others := ih fun other inside => same other (List.mem_cons_of_mem path inside)
      unfold readPages
      cases read : fs.readText path with
      | ok text =>
          rw [(here text).1 read]
          simp only [Logged.value_andThen, Logged.value_quiet, others]
      | error refusal =>
          cases read' : fs'.readText path with
          | error refusal' => simp only [Logged.value_andThen, others]
          | ok text => cases read.symm.trans ((here text).2 read')

/-- The calls of a trace depend on the files that are found and on the texts that can be read from
    them. Why others cannot be read makes no difference. -/
theorem traceChecked_calls_congr (parse : Parser) {root : String} {config : Config}
    (sources : fs'.findFiles root config.sourceExtensions =
      fs.findFiles root config.sourceExtensions)
    (pages : fs'.findFiles root config.markupExtensions =
      fs.findFiles root config.markupExtensions)
    (texts : ∀ path ∈ fs.findFiles root config.sourceExtensions ++
        fs.findFiles root config.markupExtensions,
      ∀ text, fs.readText path = .ok text ↔ fs'.readText path = .ok text) :
    (traceChecked parse fs' root config).calls = (traceChecked parse fs root config).calls := by
  have contributions : ∀ path ∈ fs.findFiles root config.sourceExtensions,
      contribution parse config.apis fs' path = contribution parse config.apis fs path :=
    fun path found => (contribution_congr parse _ (texts path (List.mem_append_left _ found))).symm
  have contents : (readPages fs' (fs.findFiles root config.markupExtensions)).value =
      (readPages fs (fs.findFiles root config.markupExtensions)).value :=
    (readPages_value_congr fun path found => texts path (List.mem_append_right _ found)).symm
  rw [traceChecked_calls, traceChecked_calls, traceChecked_graph, traceChecked_graph, sources, pages,
    contents, List.flatMap_congr fun path found => congrArg Extraction.calls (contributions path found),
    List.flatMap_congr fun path found => congrArg Extraction.edges (contributions path found)]

end

/-! ## Names of the API -/

section
variable {apis more : List String}

theorem extract_calls_fewer (fewer : apis ⊆ more) (file : String) (source : List UInt8)
    (tree : Node) :
    (extract apis file source tree).calls =
      (extract more file source tree).calls.filter (apis.contains ·.api) := by
  have both : ∀ c : NamedCall,
      (apis.contains c.callee && more.contains c.callee) = apis.contains c.callee := by
    intro c
    rw [Bool.and_eq_left_iff_imp, List.contains_iff_mem, List.contains_iff_mem]
    exact fun inside => fewer inside
  simp only [extract, List.filter_map, List.filter_filter, Function.comp_def, NamedCall.apiCall,
    both]

theorem contribution_edges_apis (parse : Parser) (apis more : List String) (fs : FileSystem)
    (path : String) :
    (contribution parse apis fs path).edges = (contribution parse more fs path).edges := by
  unfold contribution
  cases fs.readText path with
  | error refusal => rfl
  | ok source => rfl

theorem contribution_calls_fewer (fewer : apis ⊆ more) (parse : Parser) (fs : FileSystem)
    (path : String) :
    (contribution parse apis fs path).calls =
      (contribution parse more fs path).calls.filter (apis.contains ·.api) := by
  unfold contribution
  cases fs.readText path with
  | error refusal => rfl
  | ok source => exact extract_calls_fewer fewer ..

theorem traceChecked_graph_apis (parse : Parser) (fs : FileSystem) (root : String)
    (config : Config) (apis more : List String) :
    (traceChecked parse fs root { config with apis := apis }).graph =
      (traceChecked parse fs root { config with apis := more }).graph := by
  simp only [traceChecked_graph, contribution_edges_apis parse apis more]

theorem traceChecked_calls_fewer (fewer : apis ⊆ more) (parse : Parser) (fs : FileSystem)
    (root : String) (config : Config) :
    (traceChecked parse fs root { config with apis := apis }).calls =
      (traceChecked parse fs root { config with apis := more }).calls.filter
        (apis.contains ·.api) := by
  rw [traceChecked_calls, traceChecked_calls, traceChecked_graph_apis parse fs root config apis more,
    List.filter_map]
  -- Resolving a call does not change its name, and sorting does not mix up what is kept.
  have named : ∀ g codeBehind bound, (fun c : ApiCall => apis.contains c.api) ∘
      ApiCall.resolved g codeBehind bound = fun c => apis.contains c.api := by
    intro g codeBehind bound
    rfl
  rw [named, ApiCall.sorted, ApiCall.sorted,
    filter_mergeSort ApiCall.placeOrder_trans ApiCall.placeOrder_total, List.filter_flatMap]
  simp only [contribution_calls_fewer fewer]

/-- A smaller API filters a trace. It fails where the trace for the larger one fails and as that
    does; else it has the same graph, and of the calls those of the smaller API, each with all that
    is known of it, in the same order. -/
theorem trace_fewer_apis (fewer : apis ⊆ more) (parse : Parser) (fs : FileSystem) (root : String)
    (config : Config) :
    (trace parse fs root { config with apis := apis }).map
        (fun result => (result.graph, result.calls)) =
      (trace parse fs root { config with apis := more }).map fun result =>
        (result.graph, result.calls.filter (apis.contains ·.api)) := by
  unfold trace
  cases fs.checkRoot root none with
  | error e => rfl
  | ok _ =>
      by_cases noWorkers : config.workers.any (· < 1)
      · simp only [noWorkers, if_true]
        rfl
      · simp only [noWorkers, if_false, Except.map, Bool.false_eq_true]
        rw [traceChecked_graph_apis parse fs root config apis more, traceChecked_calls_fewer fewer]

end

private def oneCallFiles : FileSystem :=
  ⟨[(["a.cs"], .file (Utf8.encode "void M(){A();}"))], []⟩

private theorem oneCallFiles_readText :
    oneCallFiles.readText (joinPath "/" "a.cs") = .ok "void M(){A();}" :=
  FileSystem.readText_eq_ok_iff.2
    ⟨_, FileSystem.read_joinPath oneCallFiles.scan_root (by decide) rfl (by decide), rfl⟩

private theorem oneCall_contributed :
    ∃ c ∈ (contribution (fun _ => ⟨oneCall, false⟩) ["A"] oneCallFiles
        (joinPath "/" "a.cs")).calls,
      c.api = "A" := by
  have named : (NamedCall.at? (Utf8.encode "void M(){A();}") oneCall [1, 0]).map (·.callee) =
      some "A" := rfl
  obtain ⟨c, located, callee⟩ := Option.map_eq_some_iff.mp named
  refine ⟨c.apiCall (Utf8.encode "void M(){A();}") (joinPath "/" "a.cs"),
    mem_contribution_calls.mpr ⟨_, oneCallFiles_readText, ?_⟩, callee⟩
  rw [extract_calls, List.mem_map]
  exact ⟨_, (mem_apiSites ..).mpr ⟨(NamedCall.at?_eq_some_iff ..).mp located, by simp [callee]⟩,
    rfl⟩

/-- The one call of a source is reported for an API of one name as it is for an API of two. -/
theorem trace_fewer_apis_of_two :
    ["A"] ⊆ ["A", "B"] ∧
    ∃ small large,
      trace (fun _ => ⟨oneCall, false⟩) oneCallFiles "/" { Config.default with apis := ["A"] } =
        .ok small ∧
      trace (fun _ => ⟨oneCall, false⟩) oneCallFiles "/"
        { Config.default with apis := ["A", "B"] } = .ok large ∧
      small.graph = large.graph ∧ small.calls = large.calls.filter (["A"].contains ·.api) ∧
      ∃ c ∈ small.calls, c.api = "A" := by
  have fewer : ["A"] ⊆ ["A", "B"] := by simp
  have scannable := FileSystem.checkRoot_of_scan oneCallFiles.scan_root
  have listed : joinPath "/" "a.cs" ∈ oneCallFiles.findFiles "/" Config.default.sourceExtensions :=
    FileSystem.mem_findFiles_of_file oneCallFiles.scan_root (by decide) rfl rfl
  have traced (apis : List String) :
      trace (fun _ => ⟨oneCall, false⟩) oneCallFiles "/" { Config.default with apis := apis } =
        .ok (traceChecked (fun _ => ⟨oneCall, false⟩) oneCallFiles "/"
          { Config.default with apis := apis }) :=
    trace_eq_ok_iff.2 ⟨scannable, rfl, rfl⟩
  have filtered := trace_fewer_apis fewer (fun _ => ⟨oneCall, false⟩) oneCallFiles "/"
    Config.default
  rw [traced, traced] at filtered
  obtain ⟨graphs, calls⟩ := Prod.mk.inj (Except.ok.inj filtered)
  obtain ⟨c, contributed, callee⟩ := oneCall_contributed
  have reported : ∃ r ∈ (traceChecked (fun _ => ⟨oneCall, false⟩) oneCallFiles "/"
      { Config.default with apis := ["A"] }).calls, r.api = "A" := by
    obtain ⟨r, found, _, rfl⟩ := @mem_traceChecked_of_contributed _ _ _
      { Config.default with apis := ["A"] } _ listed _ contributed
    exact ⟨_, found, callee⟩
  exact ⟨fewer, _, _, traced _, traced _, graphs, calls, reported⟩

end CallOrigin
