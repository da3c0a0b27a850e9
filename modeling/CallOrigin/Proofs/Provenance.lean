import CallOrigin.Proofs.Ascent
import CallOrigin.Proofs.Indexing
import CallOrigin.Proofs.Searches

/-! # Where a call of the API comes from

Every call that a trace reports is a call site of its file, and every step of the way up to its
outermost method is a call site of the file of the method above. The outermost method is one that
no source calls, or one that the way up comes back to.
-/

namespace CallOrigin

open CallOrigin.File

/-- A call with its outermost method filled in, and perhaps a control. -/
def Resolves (g : CallerGraph) (codeBehind : String) (c resolved : ApiCall) : Prop :=
  ∃ control, resolved =
    { c with top := some (g.ascend codeBehind c.caller).top, control := control }

theorem resolveCall_resolves (g : CallerGraph) (codeBehind : String) (x : Markup.Index)
    (c : ApiCall) : Resolves g codeBehind c (resolveCall g codeBehind x c).value.1 :=
  ⟨_, rfl⟩

theorem exists_related_of_mem {α β : Type} {related : α → β → Prop} {xs : List α} {ys : List β}
    (all : List.Forall₂ related xs ys) {y : β} (inside : y ∈ ys) : ∃ x ∈ xs, related x y := by
  induction all with
  | nil => cases inside
  | cons here _ ih =>
      rcases List.mem_cons.mp inside with rfl | later
      · exact ⟨_, List.mem_cons_self, here⟩
      · obtain ⟨x, member, found⟩ := ih later
        exact ⟨x, List.mem_cons_of_mem _ member, found⟩

/-- The calls of a trace are those of its sources with their outermost methods in its graph. -/
theorem traceChecked_resolves (parse : Parser) (fs : FileSystem) (root : String)
    (config : Config) :
    List.Forall₂ (Resolves (traceChecked parse fs root config).graph config.codeBehind)
      (ApiCall.sorted ((fs.findFiles root config.sourceExtensions).flatMap
        fun path => (contribution parse config.apis fs path).calls))
      (traceChecked parse fs root config).calls := by
  simp only [traceChecked, Logged.value_andThen, Logged.value_quiet, indexFiles_value]
  exact Logged.mapState_related (resolveCall_resolves _ config.codeBehind) _ _

theorem contributed_of_mem_traceChecked {parse : Parser} {fs : FileSystem} {root : String}
    {config : Config} {r : ApiCall} (found : r ∈ (traceChecked parse fs root config).calls) :
    ∃ c ∈ (fs.findFiles root config.sourceExtensions).flatMap
        (fun path => (contribution parse config.apis fs path).calls),
      Resolves (traceChecked parse fs root config).graph config.codeBehind c r := by
  obtain ⟨c, sorted, resolves⟩ :=
    exists_related_of_mem (traceChecked_resolves parse fs root config) found
  rw [ApiCall.sorted, List.mem_mergeSort] at sorted
  exact ⟨c, sorted, resolves⟩

theorem mem_traceChecked_of_contributed {parse : Parser} {fs : FileSystem} {root : String}
    {config : Config} {path : String} (listed : path ∈ fs.findFiles root config.sourceExtensions)
    {c : ApiCall} (contributed : c ∈ (contribution parse config.apis fs path).calls) :
    ∃ r ∈ (traceChecked parse fs root config).calls,
      Resolves (traceChecked parse fs root config).graph config.codeBehind c r := by
  refine exists_related_of_mem (traceChecked_resolves parse fs root config).flip ?_
  rw [ApiCall.sorted, List.mem_mergeSort]
  exact List.mem_flatMap.mpr ⟨path, listed, contributed⟩

theorem mem_traceChecked_edges {parse : Parser} {fs : FileSystem} {root : String} {config : Config}
    (e : Edge) :
    e ∈ (traceChecked parse fs root config).graph.edges ↔
      ∃ c, SiteIn parse fs (fs.findFiles root config.sourceExtensions) e.caller.file c ∧
        c.callee = e.callee ∧ c.methodName = e.caller.name := by
  simp only [traceChecked, Logged.value_andThen, Logged.value_quiet, indexFiles_value]
  rw [← mem_contributed_edges config.apis]
  exact (CallerGraph.mem_withEdges ..).trans (by simp)

theorem trace_eq_ok (parse : Parser) {fs : FileSystem} {root : String} {config : Config}
    (scannable : fs.checkRoot root none = .ok ()) (workers : ∀ n ∈ config.workers, 1 ≤ n) :
    trace parse fs root config = .ok (traceChecked parse fs root config) := by
  have allowed : ¬ config.workers.any (· < 1) := by
    intro none
    obtain ⟨n, limit, below⟩ := (Option.any_eq_true _ _).mp none
    have := workers n limit
    have := of_decide_eq_true below
    omega
  rw [trace, scannable]
  exact if_neg allowed

/-- The methods `chain 0, …, chain n` lead from a call of the API up to its outermost method. -/
structure Provenance (parse : Parser) (fs : FileSystem) (config : Config) (result : TraceResult)
    (r : ApiCall) (n : Nat) (chain : Nat → Method) : Prop where
  first : chain 0 = r.caller
  last : r.top = some (chain n)
  file : r.file = r.caller.file
  site : ∃ c, SiteIn parse fs result.sources r.file c ∧ c.callee = r.api ∧
    c.methodName = r.caller.name ∧ r.line = c.call.point.row ∧ r.col = c.call.point.col
  /-- Each method is called inside of the next. -/
  links : ∀ i < n, ∃ c, SiteIn parse fs result.sources (chain (i + 1)).file c ∧
    c.callee = (chain i).name ∧ c.methodName = (chain (i + 1)).name
  /-- The last method is one that no call site names, or that the choice of callers leads back to. -/
  ends : (∀ file c, SiteIn parse fs result.sources file c → c.callee ≠ (chain n).name) ∨
    ∃ k > 0, result.graph.climb config.codeBehind (chain n) k = some (chain n)

/-- Every root that can be scanned has a trace, and every call that it reports is linked to its
    outermost method by call sites of the sources. -/
theorem trace_provenance (parse : Parser) {fs : FileSystem} {root : String} {config : Config}
    (scannable : fs.checkRoot root none = .ok ()) (workers : ∀ n ∈ config.workers, 1 ≤ n) :
    ∃ result, trace parse fs root config = .ok result ∧
      result.sources = fs.findFiles root config.sourceExtensions ∧
      ∀ r ∈ result.calls, ∃ n chain, Provenance parse fs config result r n chain := by
  refine ⟨_, trace_eq_ok parse scannable workers, rfl, ?_⟩
  intro r found
  obtain ⟨c, contributed, control, rfl⟩ := contributed_of_mem_traceChecked found
  obtain ⟨sameFile, site⟩ := site_of_contributed_call contributed
  obtain ⟨n, reached, ends⟩ := CallerGraph.climb_to_top
    (traceChecked parse fs root config).graph config.codeBehind c.caller
  obtain ⟨chain, first, last, links⟩ := CallerGraph.chain_of_climb reached
  refine ⟨n, chain, first, congrArg some last.symm, sameFile, site, ?_, ?_⟩
  · intro i inside
    exact (mem_traceChecked_edges _).mp (CallerGraph.edge_of_next? (links i inside))
  · rw [last]
    refine ends.imp_left ?_
    intro uncalled file other otherSite same
    have edge : ⟨other.callee, ⟨other.methodName, file⟩⟩ ∈
        (traceChecked parse fs root config).graph.edges :=
      (mem_traceChecked_edges _).mpr ⟨other, otherSite, rfl, rfl⟩
    rw [same, ← CallerGraph.mem_callersOf, uncalled] at edge
    cases edge

private def selfCallText : String := "void M(){M();}"

private def selfCallParser : Parser := fun _ => ⟨oneCall, false⟩

private def selfCallConfig : Config := { Config.default with apis := ["M"] }

private def selfCallFiles : FileSystem :=
  ⟨[(["w"], .directory), (["w", "a.cs"], .file (Utf8.encode selfCallText))], ["w"]⟩

private theorem selfCallFiles_scan : selfCallFiles.scan "." = .ok ["w"] :=
  FileSystem.scan_here rfl

private theorem selfCallFiles_readText :
    selfCallFiles.readText (joinPath "." "a.cs") = .ok selfCallText :=
  FileSystem.readText_eq_ok_iff.2
    ⟨_, FileSystem.read_joinPath selfCallFiles_scan (by decide) rfl (by decide), rfl⟩

/-- A method of the API that calls itself is reported with a chain. -/
theorem trace_provenance_self_call :
    ∃ result r n chain,
      selfCallFiles.checkRoot "." none = .ok () ∧ (∀ n ∈ selfCallConfig.workers, 1 ≤ n) ∧
      trace selfCallParser selfCallFiles "." selfCallConfig = .ok result ∧ r ∈ result.calls ∧
      Provenance selfCallParser selfCallFiles selfCallConfig result r n chain := by
  have scannable := FileSystem.checkRoot_of_scan selfCallFiles_scan
  have listed : joinPath "." "a.cs" ∈ selfCallFiles.findFiles "." selfCallConfig.sourceExtensions :=
    FileSystem.mem_findFiles_of_file selfCallFiles_scan (by decide) rfl rfl
  have workers : ∀ n ∈ selfCallConfig.workers, 1 ≤ n := by
    simp [selfCallConfig, Config.default]
  have named : (NamedCall.at? (Utf8.encode selfCallText) oneCall [1, 0]).map (·.callee) =
      some "M" := rfl
  obtain ⟨c, located, callee⟩ := Option.map_eq_some_iff.mp named
  have site := (NamedCall.at?_eq_some_iff ..).mp located
  have contributed : c.apiCall (Utf8.encode selfCallText) (joinPath "." "a.cs") ∈
      (contribution selfCallParser selfCallConfig.apis selfCallFiles (joinPath "." "a.cs")).calls := by
    refine mem_contribution_calls.mpr ⟨_, selfCallFiles_readText, ?_⟩
    rw [extract_calls, List.mem_map]
    exact ⟨_, (mem_apiSites ..).mpr ⟨site, by simp [callee, selfCallConfig]⟩, rfl⟩
  obtain ⟨result, traced, _, provenance⟩ :=
    trace_provenance selfCallParser scannable workers
  have checked := traced.symm.trans (trace_eq_ok selfCallParser scannable workers)
  cases checked
  obtain ⟨r, found, _⟩ := mem_traceChecked_of_contributed listed contributed
  obtain ⟨n, chain, provenance⟩ := provenance r found
  exact ⟨_, r, n, chain, scannable, workers, traced, found, provenance⟩

end CallOrigin
