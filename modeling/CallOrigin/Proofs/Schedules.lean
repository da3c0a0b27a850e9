import CallOrigin.Proofs.Ascent
import CallOrigin.Proofs.Indexing
import CallOrigin.Proofs.Searches
import Mathlib.Logic.Relation

/-! # Indexing in any order

Sources may be indexed by tasks that run at the same time and share one graph. A task takes the
calls of its file one by one; adding the edge of a call is one step, and the steps of the tasks come
in any order. No step changes what is in the graph or still to come, nor what a task will have found
in the end, so the outcome does not depend on the schedule. It does not depend on the order of the
files either, since calls of equal rank are all of one file.
-/

namespace CallOrigin

open CallOrigin.File

/-! ## Tasks and schedules -/

/-- A task that indexes one source file. -/
structure Task where
  path : String
  source : List UInt8
  pending : List NamedCall
  found : List ApiCall

namespace Task

/-- A file that cannot be read leaves its task without calls. -/
def start (parse : Parser) (fs : FileSystem) (path : String) : Task :=
  match fs.readText path with
  | .error _ => ⟨path, [], [], []⟩
  | .ok text =>
    ⟨path, Utf8.encode text, NamedCall.all (Utf8.encode text) (parse text).root, []⟩

def apiCalls (apis : List String) (t : Task) (calls : List NamedCall) : List ApiCall :=
  (calls.filter (apis.contains ·.callee)).map (·.apiCall t.source t.path)

/-- The task when the edge of a call has been added. -/
def indexed (apis : List String) (t : Task) (c : NamedCall) (rest : List NamedCall) : Task :=
  { t with pending := rest, found := t.found ++ t.apiCalls apis [c] }

def givenUp (t : Task) : Task := { t with pending := [], found := [] }

end Task

/-- Tasks that share a graph. -/
structure Crew where
  graph : CallerGraph
  tasks : List Task

namespace Crew

def start (parse : Parser) (fs : FileSystem) (paths : List String) : Crew :=
  ⟨.empty, paths.map (Task.start parse fs)⟩

/-- One task tries to add the edge of its next call. -/
inductive Step (apis : List String) : Crew → Crew → Prop where
  | added {g g' : CallerGraph} {before after : List Task} {t : Task} {c : NamedCall}
      {rest : List NamedCall} :
    t.pending = c :: rest →
    g.add (c.edge t.path) = .ok g' →
    Step apis ⟨g, before ++ t :: after⟩ ⟨g', before ++ t.indexed apis c rest :: after⟩
  | refused {g : CallerGraph} {before after : List Task} {t : Task} {c : NamedCall}
      {rest : List NamedCall} {error : FrozenError} :
    t.pending = c :: rest →
    g.add (c.edge t.path) = .error error →
    Step apis ⟨g, before ++ t :: after⟩ ⟨g, before ++ t.givenUp :: after⟩

/-- The steps of the tasks one after the other, in any order. -/
abbrev Schedule (apis : List String) : Crew → Crew → Prop :=
  Relation.ReflTransGen (Step apis)

def Finished (crew : Crew) : Prop := ∀ t ∈ crew.tasks, t.pending = []

/-- The calls of the API once the tasks have been joined, by place. -/
def calls (crew : Crew) : List ApiCall :=
  ApiCall.sorted (crew.tasks.flatMap (·.found))

/-- The number of calls that the tasks have left. -/
def left (crew : Crew) : Nat := (crew.tasks.flatMap (·.pending)).length

theorem exists_step (apis : List String) {crew : Crew} (unfinished : ¬ crew.Finished) :
    ∃ next, Step apis crew next ∧ next.left < crew.left := by
  obtain ⟨g, tasks⟩ := crew
  simp only [Finished, not_forall] at unfinished
  obtain ⟨t, member, busy⟩ := unfinished
  obtain ⟨c, rest, pending⟩ := List.exists_cons_of_ne_nil busy
  obtain ⟨before, after, rfl⟩ := List.append_of_mem member
  cases outcome : g.add (c.edge t.path) with
  | ok g' =>
      refine ⟨_, .added pending outcome, ?_⟩
      simp [left, Task.indexed, pending]
  | error error =>
      refine ⟨_, .refused pending outcome, ?_⟩
      simp only [left, Task.givenUp, pending, List.flatMap_append, List.flatMap_cons,
        List.length_append, List.length_cons, List.length_nil]
      omega

/-- Every crew can go on until it has finished. -/
theorem exists_finished (apis : List String) (crew : Crew) :
    ∃ final, Schedule apis crew final ∧ final.Finished := by
  by_cases finished : crew.Finished
  · exact ⟨crew, .refl, finished⟩
  · obtain ⟨next, step, fewer⟩ := exists_step apis finished
    obtain ⟨final, schedule, finished⟩ := exists_finished apis next
    exact ⟨final, .head step schedule, finished⟩
termination_by crew.left

end Crew

/-! ## What the steps conserve -/

namespace Task

def owed (t : Task) : List Edge := t.pending.map (·.edge t.path)

/-- The calls of the API that the task will have found in the end. -/
def due (apis : List String) (t : Task) : List ApiCall := t.found ++ t.apiCalls apis t.pending

theorem owed_start (parse : Parser) (apis : List String) (fs : FileSystem) (path : String) :
    (start parse fs path).owed = (contribution parse apis fs path).edges := by
  unfold start contribution
  cases fs.readText path with
  | error refusal => rfl
  | ok text => rfl

theorem due_start (parse : Parser) (apis : List String) (fs : FileSystem) (path : String) :
    (start parse fs path).due apis = (contribution parse apis fs path).calls := by
  unfold start contribution
  cases fs.readText path with
  | error refusal => rfl
  | ok text => rfl

theorem owed_of_pending (apis : List String) {t : Task} {c : NamedCall} {rest : List NamedCall}
    (pending : t.pending = c :: rest) :
    t.owed = c.edge t.path :: (t.indexed apis c rest).owed := by
  rw [owed, pending]
  rfl

theorem due_indexed (apis : List String) {t : Task} {c : NamedCall} {rest : List NamedCall}
    (pending : t.pending = c :: rest) : (t.indexed apis c rest).due apis = t.due apis := by
  simp only [due, indexed, apiCalls, pending, List.append_assoc, ← List.map_append,
    ← List.filter_append, List.singleton_append]

end Task

namespace Crew

/-- A crew on its way to the given edges and, task by task, to the given calls of the API. -/
structure Toward (apis : List String) (edges : List Edge) (calls : List (List ApiCall))
    (crew : Crew) : Prop where
  unfrozen : crew.graph.frozen = false
  filled : crew.graph.Filled
  /-- An edge is in the graph or is still to come. -/
  edges_iff : ∀ e, e ∈ crew.graph.edges ∨ e ∈ crew.tasks.flatMap Task.owed ↔ e ∈ edges
  due_eq : crew.tasks.map (Task.due apis) = calls

namespace Toward

variable {apis : List String} {edges : List Edge} {calls : List (List ApiCall)} {crew next : Crew}

theorem start (parse : Parser) (apis : List String) (fs : FileSystem) (paths : List String) :
    Toward apis (paths.flatMap fun path => (contribution parse apis fs path).edges)
      (paths.map fun path => (contribution parse apis fs path).calls)
      (Crew.start parse fs paths) where
  unfrozen := rfl
  filled := CallerGraph.filled_empty
  edges_iff e := by
    simp only [Crew.start, CallerGraph.edges_empty, List.flatMap_map, Task.owed_start parse apis,
      List.not_mem_nil, false_or]
  due_eq := by
    simp only [Crew.start, List.map_map, Function.comp_def, Task.due_start]

/-- A step moves an edge into the graph, and keeps what its task will have found. -/
theorem step (toward : Toward apis edges calls crew) (step : Step apis crew next) :
    Toward apis edges calls next := by
  cases step with
  | @added g g' before after t c rest pending outcome =>
      have unfrozen : g.frozen = false := toward.unfrozen
      rw [CallerGraph.add_eq, unfrozen] at outcome
      cases outcome
      refine ⟨?_, toward.filled.withEdge _, ?_, ?_⟩
      · rw [CallerGraph.frozen_withEdge, unfrozen]
      · intro e
        rw [← toward.edges_iff e]
        simp only [CallerGraph.mem_withEdge, List.flatMap_append, List.flatMap_cons,
          List.mem_append, Task.owed_of_pending apis pending, List.mem_cons]
        tauto
      · rw [← toward.due_eq]
        simp only [List.map_append, List.map_cons, Task.due_indexed apis pending]
  | @refused g before after t c rest error pending outcome =>
      have unfrozen : g.frozen = false := toward.unfrozen
      rw [CallerGraph.add_eq, unfrozen] at outcome
      cases outcome

theorem schedule (toward : Toward apis edges calls crew) (run : Schedule apis crew next) :
    Toward apis edges calls next := by
  induction run with
  | refl => exact toward
  | tail _ last ih => exact ih.step last

theorem mem_edges (toward : Toward apis edges calls crew) (finished : crew.Finished) (e : Edge) :
    e ∈ crew.graph.edges ↔ e ∈ edges := by
  rw [← toward.edges_iff e]
  constructor
  · exact .inl
  · rintro (inside | owed)
    · exact inside
    · obtain ⟨t, member, owed⟩ := List.mem_flatMap.mp owed
      rw [Task.owed, finished t member] at owed
      cases owed

theorem found_eq (toward : Toward apis edges calls crew) (finished : crew.Finished) :
    crew.tasks.flatMap (·.found) = calls.flatten := by
  rw [← toward.due_eq, ← List.flatMap_def]
  refine List.flatMap_congr ?_
  intro t member
  rw [Task.due, finished t member]
  exact (List.append_nil _).symm

end Toward

end Crew

/-! ## The order of the files -/

namespace ApiCall

theorem file_eq_of_sameRank {a b : ApiCall} (rank : sameRank placeOrder a b) : a.file = b.file := by
  obtain ⟨below, above⟩ := (Bool.and_eq_true _ _).mp rank
  rw [placeOrder_eq] at below above
  exact (keyedOrder_both below above).1

/-- The calls of one rank are all of one file, so they come from the places of that file in the
    list of files. -/
theorem filter_sameRank_flatMap {calls : String → List ApiCall}
    (own : ∀ path, ∀ c ∈ calls path, c.file = path) (paths : List String) (a : ApiCall) :
    (paths.flatMap calls).filter (sameRank placeOrder a) =
      (List.replicate (paths.count a.file) a.file).flatMap
        fun path => (calls path).filter (sameRank placeOrder a) := by
  rw [List.filter_flatMap]
  induction paths with
  | nil => rfl
  | cons path paths ih =>
      rw [List.flatMap_cons, ih]
      by_cases here : path = a.file
      · rw [here, List.count_cons_self, List.replicate_succ, List.flatMap_cons]
      · have none : (calls path).filter (sameRank placeOrder a) = [] := by
          rw [List.filter_eq_nil_iff]
          intro c member rank
          exact here ((own path c member).symm.trans (file_eq_of_sameRank rank).symm)
        rw [none, List.nil_append, List.count_cons_of_ne here]

theorem sorted_flatMap_perm {calls : String → List ApiCall}
    (own : ∀ path, ∀ c ∈ calls path, c.file = path) {paths others : List String}
    (same : paths.Perm others) :
    sorted (paths.flatMap calls) = sorted (others.flatMap calls) := by
  refine mergeSort_eq_of_filter_sameRank placeOrder_trans placeOrder_total ?_
  intro a
  rw [filter_sameRank_flatMap own, filter_sameRank_flatMap own, same.count_eq]

end ApiCall

/-! ## The outcome -/

theorem CallerGraph.Alike.resolveCalls_eq {g h : CallerGraph} (alike : g.Alike h)
    (codeBehind : String) (x : Markup.Index) (calls : List ApiCall) :
    resolveCalls g codeBehind x calls = resolveCalls h codeBehind x calls := by
  have each : resolveCall g codeBehind = resolveCall h codeBehind := by
    funext x c
    simp only [resolveCall, topLevel, alike.ascend_eq]
  rw [resolveCalls, resolveCalls, each]

namespace Crew

section
variable {parse : Parser} {apis : List String} {fs : FileSystem} {paths : List String} {crew : Crew}

theorem calls_eq_indexFiles (run : Schedule apis (start parse fs paths) crew)
    (finished : crew.Finished) : crew.calls = (indexFiles parse apis fs paths).value.1 := by
  have toward := (Toward.start parse apis fs paths).schedule run
  rw [calls, toward.found_eq finished, indexFiles_value, List.flatMap_def]

theorem mem_edges_iff (run : Schedule apis (start parse fs paths) crew)
    (finished : crew.Finished) (e : Edge) :
    e ∈ crew.graph.edges ↔ ∃ path ∈ paths, e ∈ (contribution parse apis fs path).edges := by
  have toward := (Toward.start parse apis fs paths).schedule run
  rw [toward.mem_edges finished, List.mem_flatMap]

theorem filled_graph (run : Schedule apis (start parse fs paths) crew) : crew.graph.Filled :=
  ((Toward.start parse apis fs paths).schedule run).filled

end

/-- Whatever the order of the files and the schedule of the tasks, the calls of the API, the answers
    of the graph and the calls with their outermost methods are the same; and they are what indexing
    the files one after the other gives. -/
theorem schedules_agree {parse : Parser} {apis : List String} {fs : FileSystem}
    {paths others : List String} (same : paths.Perm others) {crew crew' : Crew}
    (run : Schedule apis (start parse fs paths) crew) (finished : crew.Finished)
    (run' : Schedule apis (start parse fs others) crew') (finished' : crew'.Finished) :
    crew.calls = crew'.calls ∧
    crew.calls = (indexFiles parse apis fs paths).value.1 ∧
    (∀ callee m, m ∈ crew.graph.freeze.callersOf callee ↔
      ∃ path ∈ paths, ⟨callee, m⟩ ∈ (contribution parse apis fs path).edges) ∧
    (∀ callee, (crew.graph.freeze.callersOf callee).Perm (crew'.graph.freeze.callersOf callee)) ∧
    crew.graph.freeze.edgeCount = crew'.graph.freeze.edgeCount ∧
    crew.graph.freeze.size = crew'.graph.freeze.size ∧
    crew.graph.freeze.calleeNames = crew'.graph.freeze.calleeNames ∧
    ∀ codeBehind x, resolveCalls crew.graph.freeze codeBehind x crew.calls =
      resolveCalls crew'.graph.freeze codeBehind x crew'.calls := by
  have sameCalls : crew.calls = crew'.calls := by
    rw [calls_eq_indexFiles run finished, calls_eq_indexFiles run' finished', indexFiles_value,
      indexFiles_value]
    exact ApiCall.sorted_flatMap_perm (fun _ _ => file_of_contributed_call) same
  have alike : crew.graph.freeze.Alike crew'.graph.freeze := by
    have filled : crew.graph.freeze.Filled := filled_graph run
    refine filled.alike (filled_graph run') fun e => ?_
    refine (mem_edges_iff run finished e).trans ((mem_edges_iff run' finished' e).trans ?_).symm
    simp only [same.mem_iff]
  refine ⟨sameCalls, calls_eq_indexFiles run finished, ?_, alike.callersOf_perm,
    alike.edgeCount_eq, alike.size_eq, alike.calleeNames_eq, ?_⟩
  · intro callee m
    rw [CallerGraph.mem_callersOf]
    exact mem_edges_iff run finished _
  · intro codeBehind x
    rw [sameCalls, alike.resolveCalls_eq]

private def mutualFiles : FileSystem :=
  ⟨[(["a"], .file (Utf8.encode "void M(){N();}")), (["b"], .file (Utf8.encode "void N(){M();}"))],
    []⟩

private theorem mutualFiles_readText :
    mutualFiles.readText (joinPath "/" "a") = .ok "void M(){N();}" :=
  FileSystem.readText_eq_ok_iff.2
    ⟨_, FileSystem.read_joinPath mutualFiles.scan_root (by decide) rfl (by decide), rfl⟩

/-- Two methods that call each other, from files taken in either order. -/
theorem schedules_agree_mutual :
    ∃ crew crew',
      Schedule ["N"] (start (fun _ => ⟨oneCall, false⟩) mutualFiles ["/a", "/b"]) crew ∧
      crew.Finished ∧
      Schedule ["N"] (start (fun _ => ⟨oneCall, false⟩) mutualFiles ["/b", "/a"]) crew' ∧
      crew'.Finished ∧
      crew.calls = crew'.calls ∧ ⟨"M", "/a"⟩ ∈ crew.graph.freeze.callersOf "N" := by
  obtain ⟨crew, run, finished⟩ := exists_finished ["N"]
    (start (fun _ => ⟨oneCall, false⟩) mutualFiles ["/a", "/b"])
  obtain ⟨crew', run', finished'⟩ := exists_finished ["N"]
    (start (fun _ => ⟨oneCall, false⟩) mutualFiles ["/b", "/a"])
  obtain ⟨calls, _, callers, _⟩ :=
    schedules_agree (List.Perm.swap "/b" "/a" []) run finished run' finished'
  have named : (NamedCall.at? (Utf8.encode "void M(){N();}") oneCall [1, 0]).map
      (fun c => (c.callee, c.methodName)) = some ("N", "M") := rfl
  obtain ⟨c, located, parts⟩ := Option.map_eq_some_iff.mp named
  obtain ⟨callee, method⟩ : c.callee = "N" ∧ c.methodName = "M" := by
    simpa using parts
  have edge : ⟨"N", ⟨"M", "/a"⟩⟩ ∈
      (contribution (fun _ => ⟨oneCall, false⟩) ["N"] mutualFiles "/a").edges := by
    refine mem_contribution_edges.mpr ⟨_, mutualFiles_readText, ?_⟩
    refine (mem_extract_edges ..).mpr ⟨_, c, (NamedCall.at?_eq_some_iff ..).mp located, ?_⟩
    rw [callee, method]
  exact ⟨crew, crew', run, finished, run', finished', calls,
    (callers "N" _).mpr ⟨"/a", List.mem_cons_self, edge⟩⟩

end Crew

end CallOrigin
