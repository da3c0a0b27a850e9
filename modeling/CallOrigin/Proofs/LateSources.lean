import CallOrigin.Proofs.Schedules
import CallOrigin.Proofs.Ways

/-! # Sources that come too late

A frozen graph refuses every edge, and a call of the API is only found after its edge has been asked
for. So a source that is indexed into a frozen graph either has no call site, or is given up at its
first one: it adds no edge and no call comes of it. This holds as well of several such sources that
are indexed at the same time.
-/

namespace CallOrigin

open CallOrigin.File

/-! ## The first call site -/

namespace NamedCall

/-- `c` is the call site of a tree that comes first in pre-order. -/
def First (source : List UInt8) (tree : Node) (c : NamedCall) : Prop :=
  ∃ p, c.At source tree p ∧ ∀ q (d : NamedCall), d.At source tree q → q = p ∨ p < q

theorem head?_all_eq_some_iff (source : List UInt8) (tree : Node) (c : NamedCall) :
    (all source tree).head? = some c ↔ c.First source tree := by
  have sorted := sites_sorted source tree
  rw [all_eq, List.head?_map, Option.map_eq_some_iff]
  constructor
  · rintro ⟨⟨p, _⟩, first, rfl⟩
    obtain ⟨rest, split⟩ := List.head?_eq_some_iff.mp first
    rw [split] at sorted
    refine ⟨p, (mem_sites ..).mp (split ▸ List.mem_cons_self), ?_⟩
    intro q d site
    have listed := (mem_sites source tree q d).mpr site
    rw [split, List.mem_cons] at listed
    rcases listed with here | later
    · exact .inl (Prod.mk.inj here).1
    · exact .inr (List.rel_of_pairwise_cons sorted later)
  · rintro ⟨p, site, least⟩
    have listed := (mem_sites source tree p c).mpr site
    obtain ⟨⟨q, d⟩, rest, split⟩ := List.exists_cons_of_ne_nil (List.ne_nil_of_mem listed)
    rw [split, List.mem_cons] at listed
    rcases listed with here | later
    · exact ⟨_, by rw [split, ← here]; rfl, rfl⟩
    · rw [split] at sorted
      have before : q < p := List.rel_of_pairwise_cons sorted later
      rcases least q d ((mem_sites ..).mp (split ▸ List.mem_cons_self)) with same | after
      · exact absurd before (same ▸ List.lt_irrefl _)
      · exact absurd after (List.lt_asymm before)

theorem First.unique {source : List UInt8} {tree : Node} {c d : NamedCall}
    (one : c.First source tree) (other : d.First source tree) : c = d := by
  rw [← head?_all_eq_some_iff] at one other
  exact Option.some.inj (one.symm.trans other)

theorem all_eq_nil_iff (source : List UInt8) (tree : Node) :
    all source tree = [] ↔ ∀ p c, ¬ At source tree p c := by
  rw [List.eq_nil_iff_forall_not_mem]
  simp only [mem_all, not_exists]
  exact forall_comm

end NamedCall

/-! ## A frozen graph -/

namespace CallerGraph

variable {g : CallerGraph}

theorem addAll_of_frozen (frozen : g.frozen = true) (e : Edge) (es : List Edge) :
    g.addAll (e :: es) = .error ⟨e⟩ := by
  have refused : g.add e = .error ⟨e⟩ := by
    rw [add_eq, frozen]
    rfl
  rw [addAll, List.foldlM_cons, refused]
  rfl

variable (frozen : g.frozen = true) (apis : List String) (file : String) (source : List UInt8)
  (tree : Node)
include frozen

theorem addExtraction_of_first {c : NamedCall} (first : c.First source tree) :
    g.addExtraction (extract apis file source tree) = .error ⟨c.edge file⟩ := by
  obtain ⟨rest, split⟩ := List.head?_eq_some_iff.mp ((NamedCall.head?_all_eq_some_iff ..).mpr first)
  rw [addExtraction, extract, split, List.map_cons, addAll_of_frozen frozen]
  rfl

omit frozen in
theorem addExtraction_of_no_site (none : ∀ p c, ¬ NamedCall.At source tree p c) :
    g.addExtraction (extract apis file source tree) = .ok (g, []) := by
  rw [extract, (NamedCall.all_eq_nil_iff ..).mpr none]
  rfl

/-- A tree has a first call site, at which it is refused, or none, and then nothing is found. -/
theorem addExtraction_cases :
    (∃ c, NamedCall.First source tree c ∧
      g.addExtraction (extract apis file source tree) = .error ⟨c.edge file⟩) ∨
    (∀ p c, ¬ NamedCall.At source tree p c) ∧
      g.addExtraction (extract apis file source tree) = .ok (g, []) := by
  cases calls : NamedCall.all source tree with
  | nil =>
      have none := (NamedCall.all_eq_nil_iff ..).mp calls
      exact .inr ⟨none, addExtraction_of_no_site apis file source tree none⟩
  | cons c rest =>
      have first := (NamedCall.head?_all_eq_some_iff source tree c).mp (by rw [calls]; rfl)
      exact .inl ⟨c, first, addExtraction_of_first frozen apis file source tree first⟩

theorem addExtraction_eq_error_iff (error : FrozenError) :
    g.addExtraction (extract apis file source tree) = .error error ↔
      ∃ c, NamedCall.First source tree c ∧ error = ⟨c.edge file⟩ := by
  constructor
  · intro refused
    rcases addExtraction_cases frozen apis file source tree with ⟨c, first, outcome⟩ | ⟨_, outcome⟩
    · rw [refused] at outcome
      exact ⟨c, first, Except.error.inj outcome⟩
    · cases refused.symm.trans outcome
  · rintro ⟨c, first, rfl⟩
    exact addExtraction_of_first frozen apis file source tree first

theorem addExtraction_eq_ok_iff (result : CallerGraph × List ApiCall) :
    g.addExtraction (extract apis file source tree) = .ok result ↔
      (∀ p c, ¬ NamedCall.At source tree p c) ∧ result = (g, []) := by
  constructor
  · intro taken
    rcases addExtraction_cases frozen apis file source tree with ⟨c, _, outcome⟩ | ⟨none, outcome⟩
    · cases taken.symm.trans outcome
    · rw [taken] at outcome
      exact ⟨none, Except.ok.inj outcome⟩
  · rintro ⟨none, rfl⟩
    exact addExtraction_of_no_site apis file source tree none

end CallerGraph

/-! ## Files -/

def Logged.warnings {α : Type} (x : Logged α) : List Event :=
  x.events.filter (·.level = .warning)

/-- That a source has syntax errors is no warning. -/
theorem level_of_syntaxErrors (hasError : Bool) (path : String) :
    (if hasError then [Event.syntaxErrors path] else []).filter (·.level = .warning) = [] := by
  cases hasError <;> rfl

/-- Why a source file cannot be indexed into a frozen graph: it cannot be read, or it has a call
    site, and the edge of its first one is refused. -/
inductive TooLate (parse : Parser) (fs : FileSystem) (path : String) : IndexFault → Prop where
  | unreadable {refusal : Refusal} :
    fs.readText path = .error refusal → TooLate parse fs path (.unreadable refusal)
  | refused {text : String} {c : NamedCall} :
    fs.readText path = .ok text → c.First (Utf8.encode text) (parse text).root →
    TooLate parse fs path (.frozen ⟨c.edge path⟩)

theorem TooLate.unique {parse : Parser} {fs : FileSystem} {path : String}
    {fault fault' : IndexFault} (one : TooLate parse fs path fault)
    (other : TooLate parse fs path fault') : fault = fault' := by
  cases one with
  | unreadable unread =>
      cases other with
      | unreadable unread' =>
          cases unread.symm.trans unread'
          rfl
      | refused read => cases unread.symm.trans read
  | refused read first =>
      cases other with
      | unreadable unread => cases unread.symm.trans read
      | refused read' first' =>
          cases read.symm.trans read'
          rw [first.unique first']

section
variable {g : CallerGraph} (frozen : g.frozen = true) (parse : Parser) (apis : List String)
  (fs : FileSystem) (path : String)
include frozen

/-- A file contributes nothing to a frozen graph, and there is one warning if it would have. -/
theorem indexFile_of_frozen :
    (indexFile parse apis fs g path).value = ([], g) ∧
      ((∃ fault, TooLate parse fs path fault ∧
        (indexFile parse apis fs g path).warnings = [.notIndexed path fault]) ∨
      (∀ fault, ¬ TooLate parse fs path fault) ∧
        (indexFile parse apis fs g path).warnings = []) := by
  cases read : fs.readText path with
  | error refusal =>
      have indexed : indexFile parse apis fs g path =
          ⟨([], g), [.notIndexed path (.unreadable refusal)]⟩ := by
        simp only [indexFile, read]
      rw [indexed]
      exact ⟨rfl, .inl ⟨_, .unreadable read, rfl⟩⟩
  | ok text =>
      have noted := level_of_syntaxErrors (parse text).hasError path
      rcases CallerGraph.addExtraction_cases frozen apis path (Utf8.encode text) (parse text).root
        with ⟨c, first, outcome⟩ | ⟨none, outcome⟩
      · have indexed : indexFile parse apis fs g path =
            ⟨([], g), (if (parse text).hasError then [.syntaxErrors path] else []) ++
              [.notIndexed path (.frozen ⟨c.edge path⟩)]⟩ := by
          simp only [indexFile, read, outcome]
        rw [indexed, Logged.warnings, List.filter_append, noted]
        exact ⟨rfl, .inl ⟨_, .refused read first, rfl⟩⟩
      · have indexed : indexFile parse apis fs g path =
            ⟨([], g), if (parse text).hasError then [.syntaxErrors path] else []⟩ := by
          simp only [indexFile, read, outcome]
        rw [indexed]
        refine ⟨rfl, .inr ⟨?_, noted⟩⟩
        intro fault late
        cases late with
        | unreadable unread => cases read.symm.trans unread
        | refused read' first =>
            cases read.symm.trans read'
            obtain ⟨p, site, _⟩ := first
            exact none p _ site

end

/-! ## Files at the same time -/

/-- A crew that has come too late: its graph is as it was, and no task has found a call. -/
structure Crew.Late (g : CallerGraph) (crew : Crew) : Prop where
  graph_eq : crew.graph = g
  nothing_found : ∀ t ∈ crew.tasks, t.found = []

namespace Crew.Late

variable {g : CallerGraph} {apis : List String} {crew next : Crew}

theorem start (g : CallerGraph) (parse : Parser) (fs : FileSystem) (paths : List String) :
    Late g ⟨g, paths.map (Task.start parse fs)⟩ where
  graph_eq := rfl
  nothing_found := by
    intro t member
    obtain ⟨path, _, rfl⟩ := List.mem_map.mp member
    unfold Task.start
    split <;> rfl

/-- A task whose edge is refused is given up, and so are the calls it has found. -/
theorem step (frozen : g.frozen = true) (late : Late g crew) (step : Step apis crew next) :
    Late g next := by
  cases step with
  | @added graph graph' before after t c rest pending outcome =>
      have same : graph = g := late.graph_eq
      rw [CallerGraph.add_eq, same, frozen] at outcome
      cases outcome
  | @refused graph before after t c rest error pending outcome =>
      refine ⟨late.graph_eq, ?_⟩
      intro other member
      rcases List.mem_append.mp member with earlier | here
      · exact late.nothing_found other (List.mem_append_left _ earlier)
      · rcases List.mem_cons.mp here with rfl | later
        · rfl
        · exact late.nothing_found other (List.mem_append_right _ (List.mem_cons_of_mem _ later))

theorem schedule (frozen : g.frozen = true) (late : Late g crew) (run : Schedule apis crew next) :
    Late g next := by
  induction run with
  | refl => exact late
  | tail _ last ih => exact ih.step frozen last

theorem calls_eq_nil (late : Late g crew) : crew.calls = [] := by
  have none : crew.tasks.flatMap (·.found) = [] := List.flatMap_eq_nil_iff.mpr late.nothing_found
  rw [calls, none, ApiCall.sorted, List.mergeSort_nil]

end Crew.Late

/-- Indexing into a frozen graph has no effect. A source is refused exactly if it has a call site,
    with the edge of the first one, and else nothing is found in it. A file gives no calls, with one
    warning if it cannot be read or is refused. The graph stays as it is, also after each single
    step of any number of files that are indexed at the same time. -/
theorem indexing_frozen {g : CallerGraph} (frozen : g.frozen = true) (parse : Parser)
    (apis : List String) :
    (∀ file source tree error,
      g.addExtraction (extract apis file source tree) = .error error ↔
        ∃ c, NamedCall.First source tree c ∧ error = ⟨c.callee, c.methodName, file⟩ ∧
          error.message = "Cannot add edge " ++ (c.methodName ++ " (" ++ file ++ ")") ++ " -> " ++
            c.callee ++ ": graph is frozen") ∧
    (∀ file source tree result,
      g.addExtraction (extract apis file source tree) = .ok result ↔
        (∀ p c, ¬ NamedCall.At source tree p c) ∧ result = (g, [])) ∧
    (∀ fs path,
      (indexFile parse apis fs g path).value = ([], g) ∧
      (∀ fault, (indexFile parse apis fs g path).warnings = [.notIndexed path fault] ↔
        TooLate parse fs path fault) ∧
      ((indexFile parse apis fs g path).warnings = [] ↔ ∀ fault, ¬ TooLate parse fs path fault)) ∧
    (∀ fs (paths : List String) crew, Crew.Schedule apis ⟨g, paths.map (Task.start parse fs)⟩ crew →
      crew.graph = g ∧ crew.calls = []) := by
  refine ⟨?_, ?_, ?_, ?_⟩
  · intro file source tree error
    rw [CallerGraph.addExtraction_eq_error_iff frozen]
    constructor
    · rintro ⟨c, first, rfl⟩
      exact ⟨c, first, rfl, rfl⟩
    · rintro ⟨c, first, rfl, _⟩
      exact ⟨c, first, rfl⟩
  · intro file source tree result
    exact CallerGraph.addExtraction_eq_ok_iff frozen apis file source tree result
  · intro fs path
    obtain ⟨nothing, ⟨fault, late, warned⟩ | ⟨timely, silent⟩⟩ :=
      indexFile_of_frozen frozen parse apis fs path
    · rw [warned]
      refine ⟨nothing, ?_, ?_⟩
      · intro fault'
        constructor
        · intro same
          cases same
          exact late
        · intro late'
          rw [late.unique late']
      · exact iff_of_false (List.cons_ne_nil _ _) fun never => never fault late
    · rw [silent]
      exact ⟨nothing, fun fault => iff_of_false (List.cons_ne_nil _ _).symm (timely fault),
        iff_of_true rfl timely⟩
  · intro fs paths crew run
    have late := (Crew.Late.start g parse fs paths).schedule frozen run
    exact ⟨late.graph_eq, late.calls_eq_nil⟩

private def lateFiles : FileSystem := ⟨[(["a"], .file (Utf8.encode "void M(){A();}"))], []⟩

private theorem lateFiles_readText : lateFiles.readText "a" = .ok "void M(){A();}" :=
  FileSystem.readText_eq_ok_iff.2 ⟨_, FileSystem.read_name (by decide) rfl, rfl⟩

private theorem oneCall_first :
    ∃ c, NamedCall.First (Utf8.encode "void M(){A();}") oneCall c ∧
      c.edge "a" = ⟨"A", "M", "a"⟩ := by
  have only : (NamedCall.all (Utf8.encode "void M(){A();}") oneCall).head?.map (·.edge "a") =
      some ⟨"A", "M", "a"⟩ := by
    rw [NamedCall.all_eq]
    rfl
  obtain ⟨c, first, edge⟩ := Option.map_eq_some_iff.mp only
  exact ⟨c, (NamedCall.head?_all_eq_some_iff ..).mp first, edge⟩

/-- A source with a call of the API is refused, with a warning that names the call's edge. -/
theorem indexing_frozen_one_call :
    CallerGraph.empty.freeze.frozen = true ∧
      (∃ error, CallerGraph.empty.freeze.addExtraction
          (extract ["A"] "a" (Utf8.encode "void M(){A();}") oneCall) = .error error ∧
        error.message = "Cannot add edge M (a) -> A: graph is frozen") ∧
      (indexFile (fun _ => ⟨oneCall, true⟩) ["A"] lateFiles CallerGraph.empty.freeze "a").value =
        ([], CallerGraph.empty.freeze) ∧
      (indexFile (fun _ => ⟨oneCall, true⟩) ["A"] lateFiles CallerGraph.empty.freeze "a").warnings =
        [.notIndexed "a" (.frozen ⟨⟨"A", "M", "a"⟩⟩)] := by
  have frozen : CallerGraph.empty.freeze.frozen = true := rfl
  obtain ⟨refused, _, files, _⟩ := indexing_frozen frozen (fun _ => ⟨oneCall, true⟩) ["A"]
  obtain ⟨c, first, edge⟩ := oneCall_first
  obtain ⟨nothing, warned, _⟩ := files lateFiles "a"
  refine ⟨frozen, ⟨_, (refused _ _ _ _).mpr ⟨c, first, rfl, rfl⟩, ?_⟩, nothing,
    (warned _).mpr (edge ▸ .refused lateFiles_readText first)⟩
  exact congrArg (fun e => FrozenError.message ⟨e⟩) edge

end CallOrigin
