import CallOrigin.Proofs.Extraction
import CallOrigin.Trace

/-! # Indexing sources

What a source file contributes does not depend on the graph that it is indexed into. So indexing
sources one after the other gives the calls of all of them, sorted, and a graph with the edges of
all of them: an edge is in the graph exactly if it is the edge of a call site of some source.
-/

namespace CallOrigin

open CallOrigin.File

/-! ## Going through a list with a state -/

namespace Logged

variable {α β σ : Type}

@[simp]
theorem value_andThen {γ : Type} (x : Logged β) (f : β → Logged γ) :
    (x.andThen f).value = (f x.value).value := rfl

@[simp]
theorem value_quiet (b : β) : (quiet b).value = b := rfl

/-- Where the answers do not depend on the state, they are those of each item by itself. -/
theorem mapState_value {f : σ → α → Logged (β × σ)} {answer : α → β} {next : σ → α → σ}
    {P : σ → Prop} (step : ∀ s a, P s → (f s a).value = (answer a, next s a))
    (keeps : ∀ s a, P s → P (next s a)) {s : σ} (start : P s) (xs : List α) :
    (mapState f s xs).value = (xs.map answer, xs.foldl next s) := by
  induction xs generalizing s with
  | nil => rfl
  | cons a rest ih =>
      simp only [mapState, value_andThen, value_quiet, step s a start, ih (keeps s a start)]
      rfl

/-- What relates each item to its answer in every state relates the items to the answers. -/
theorem mapState_related {f : σ → α → Logged (β × σ)} {related : α → β → Prop}
    (step : ∀ s a, related a (f s a).value.1) (s : σ) (xs : List α) :
    List.Forall₂ related xs (mapState f s xs).value.1 := by
  induction xs generalizing s with
  | nil => exact .nil
  | cons a rest ih => exact .cons (step s a) (ih _)

end Logged

/-! ## What a source contributes -/

/-- What the source file at a path contributes: nothing if it cannot be read. -/
def contribution (parse : Parser) (apis : List String) (fs : FileSystem) (path : String) :
    Extraction :=
  match fs.readText path with
  | .error _ => ⟨[], []⟩
  | .ok source => extract apis path (Utf8.encode source) (parse source).root

section
variable {parse : Parser} {apis : List String} {fs : FileSystem}

theorem indexFile_value {g : CallerGraph} (unfrozen : g.frozen = false) (path : String) :
    (indexFile parse apis fs g path).value =
      ((contribution parse apis fs path).calls,
        g.withEdges (contribution parse apis fs path).edges) := by
  unfold indexFile contribution
  cases fs.readText path with
  | error refusal => rfl
  | ok source => simp only [CallerGraph.addExtraction_of_open unfrozen]

theorem mapState_indexFile_value (paths : List String) :
    (Logged.mapState (indexFile parse apis fs) CallerGraph.empty paths).value =
      (paths.map fun path => (contribution parse apis fs path).calls,
        paths.foldl (fun g path => g.withEdges (contribution parse apis fs path).edges)
          CallerGraph.empty) :=
  Logged.mapState_value (P := fun g => g.frozen = false)
    (fun _ path unfrozen => indexFile_value unfrozen path)
    (fun g path unfrozen => by rw [CallerGraph.frozen_withEdges, unfrozen]) rfl paths

theorem indexFiles_value (paths : List String) :
    (indexFiles parse apis fs paths).value =
      (ApiCall.sorted (paths.flatMap fun path => (contribution parse apis fs path).calls),
        (CallerGraph.empty.withEdges
          (paths.flatMap fun path => (contribution parse apis fs path).edges)).freeze) := by
  simp only [indexFiles, Logged.value_andThen, mapState_indexFile_value]
  rw [CallerGraph.withEdges, List.foldl_flatMap, List.flatMap_def]
  rfl

end

/-! ## Call sites of sources -/

/-- `c` is a call site in the tree of a file, which is one of the sources and can be read. -/
def SiteIn (parse : Parser) (fs : FileSystem) (sources : List String) (file : String)
    (c : NamedCall) : Prop :=
  file ∈ sources ∧ ∃ text, fs.readText file = .ok text ∧
    ∃ p, c.At (Utf8.encode text) (parse text).root p

section
variable {parse : Parser} {fs : FileSystem} {sources : List String}

theorem mem_contribution {α : Type} (part : Extraction → List α) (nothing : part ⟨[], []⟩ = [])
    {apis : List String} {path : String} {a : α} :
    a ∈ part (contribution parse apis fs path) ↔ ∃ text, fs.readText path = .ok text ∧
      a ∈ part (extract apis path (Utf8.encode text) (parse text).root) := by
  unfold contribution
  cases fs.readText path with
  | error refusal => simp [nothing]
  | ok text => simp

theorem mem_contribution_edges {apis : List String} {path : String} {e : Edge} :
    e ∈ (contribution parse apis fs path).edges ↔ ∃ text, fs.readText path = .ok text ∧
      e ∈ (extract apis path (Utf8.encode text) (parse text).root).edges :=
  mem_contribution Extraction.edges rfl

theorem mem_contribution_calls {apis : List String} {path : String} {r : ApiCall} :
    r ∈ (contribution parse apis fs path).calls ↔ ∃ text, fs.readText path = .ok text ∧
      r ∈ (extract apis path (Utf8.encode text) (parse text).root).calls :=
  mem_contribution Extraction.calls rfl

theorem file_of_contributed_call {apis : List String} {path : String} {r : ApiCall}
    (contributed : r ∈ (contribution parse apis fs path).calls) : r.file = path := by
  obtain ⟨_, _, extracted⟩ := mem_contribution_calls.mp contributed
  obtain ⟨_, _, rfl⟩ := List.mem_map.mp extracted
  rfl

/-- An edge is contributed exactly if it is the edge of a call site. -/
theorem mem_contributed_edges (apis : List String) (e : Edge) :
    e ∈ sources.flatMap (fun path => (contribution parse apis fs path).edges) ↔
      ∃ c, SiteIn parse fs sources e.caller.file c ∧ c.callee = e.callee ∧
        c.methodName = e.caller.name := by
  rw [List.mem_flatMap]
  constructor
  · rintro ⟨path, listed, contributed⟩
    obtain ⟨text, read, extracted⟩ := mem_contribution_edges.mp contributed
    obtain ⟨p, c, site, rfl⟩ := (mem_extract_edges ..).mp extracted
    exact ⟨c, ⟨listed, text, read, p, site⟩, rfl, rfl⟩
  · rintro ⟨c, ⟨listed, text, read, p, site⟩, callee, method⟩
    refine ⟨e.caller.file, listed, mem_contribution_edges.mpr ⟨text, read, ?_⟩⟩
    refine (mem_extract_edges ..).mpr ⟨p, c, site, ?_⟩
    rw [callee, method]

/-- A contributed call of the API is a call site of its own file. -/
theorem site_of_contributed_call {apis : List String} {r : ApiCall}
    (contributed : r ∈ sources.flatMap fun path => (contribution parse apis fs path).calls) :
    r.file = r.caller.file ∧ ∃ c, SiteIn parse fs sources r.file c ∧ c.callee = r.api ∧
      c.methodName = r.caller.name ∧ r.line = c.call.point.row ∧ r.col = c.call.point.col := by
  obtain ⟨path, listed, contributed⟩ := List.mem_flatMap.mp contributed
  obtain ⟨text, read, extracted⟩ := mem_contribution_calls.mp contributed
  rw [extract_calls, List.mem_map] at extracted
  obtain ⟨⟨p, c⟩, site, rfl⟩ := extracted
  obtain ⟨site, _⟩ := (mem_apiSites ..).mp site
  exact ⟨rfl, c, ⟨listed, text, read, p, site⟩, rfl, rfl, rfl, rfl⟩

end

/-- The tree of a source such as `void M(){A();}`, in which a method and the name that it calls are
    of one letter each. -/
def oneCall : Node := .methodAround 14 [.callOnLine none 9 12 []]

end CallOrigin
