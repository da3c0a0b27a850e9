import CallOrigin.Proofs.Edges
import Mathlib.Data.Finset.Card
import Mathlib.Data.Finset.Image

/-! # Requests to a graph

A graph serves one request after the other: edges to add, questions, and the request to be frozen.
Whatever the run, its answers are those of one set: the edges that were asked for before the graph
was first frozen. A question, and an edge that is refused, can be taken out of a run without a
change to any other answer.
-/

namespace CallOrigin.CallerGraph

inductive Request where
  | add (edge : Edge)
  | freeze
  | frozen
  | callersOf (callee : String)
  | contains (callee : String)
  | calleeNames
  | size
  | edgeCount
deriving Repr, DecidableEq

inductive Answer where
  | done
  | refused (error : FrozenError)
  | flag (value : Bool)
  | callers (methods : List Method)
  | names (names : List String)
  | number (value : Nat)
deriving Repr, DecidableEq

/-- The answer to a request, and the graph after it. A graph that refuses an edge stays as it is. -/
def serve (g : CallerGraph) : Request → Answer × CallerGraph
  | .add e =>
    match g.add e with
    | .ok g' => (.done, g')
    | .error error => (.refused error, g)
  | .freeze => (.done, g.freeze)
  | .frozen => (.flag g.frozen, g)
  | .callersOf callee => (.callers (g.callersOf callee), g)
  | .contains callee => (.flag (g.contains callee), g)
  | .calleeNames => (.names g.calleeNames, g)
  | .size => (.number g.size, g)
  | .edgeCount => (.number g.edgeCount, g)

/-- The graph after a run of requests. -/
def after (g : CallerGraph) : List Request → CallerGraph
  | [] => g
  | r :: rest => (g.serve r).2.after rest

/-- The answers to a run of requests, one each. -/
def answers (g : CallerGraph) : List Request → List Answer
  | [] => []
  | r :: rest => (g.serve r).1 :: (g.serve r).2.answers rest

/-! ## The set behind the answers -/

def Request.edge? : Request → Option Edge
  | .add e => some e
  | _ => none

/-- Whether a request neither adds an edge nor freezes the graph. -/
def Request.isQuestion : Request → Bool
  | .add _ | .freeze => false
  | _ => true

/-- The edges asked for before the graph was first frozen. -/
def granted (past : List Request) : Finset Edge :=
  ((past.takeWhile (· != .freeze)).filterMap Request.edge?).toFinset

/-- What the answer to a request has to be, by the requests before it. -/
def Fits (past : List Request) : Request → Answer → Prop
  | .add e, answer => answer = if .freeze ∈ past then .refused ⟨e⟩ else .done
  | .freeze, answer => answer = .done
  | .frozen, answer => answer = .flag (decide (.freeze ∈ past))
  | .callersOf callee, answer =>
    ∃ methods, answer = .callers methods ∧ methods.Nodup ∧
      ∀ m, m ∈ methods ↔ ⟨callee, m⟩ ∈ granted past
  | .contains callee, answer =>
    ∃ value, answer = .flag value ∧ (value = true ↔ ∃ m, ⟨callee, m⟩ ∈ granted past)
  | .calleeNames, answer =>
    ∃ names, answer = .names names ∧ names.Pairwise (· < ·) ∧
      ∀ name, name ∈ names ↔ ∃ m, ⟨name, m⟩ ∈ granted past
  | .size, answer => answer = .number ((granted past).image (·.callee)).card
  | .edgeCount, answer => answer = .number (granted past).card

/-- That a graph keeps a set of edges: each name that is called, and no other, with the set of its
    callers, which is not empty. -/
structure Keeps (g : CallerGraph) (es : Finset Edge) : Prop where
  names : (g.callers.rows.map (·.1)).Nodup
  sets : ∀ row ∈ g.callers.rows, row.2.methods ≠ [] ∧ row.2.methods.Nodup
  edges : ∀ callee m, (∃ s, (callee, s) ∈ g.callers.rows ∧ m ∈ s.methods) ↔ ⟨callee, m⟩ ∈ es

/-! ## What a request does -/

theorem granted_concat (past : List Request) (r : Request) (e : Edge) :
    e ∈ granted (past ++ [r]) ↔ e ∈ granted past ∨ (.freeze ∉ past ∧ r = .add e) := by
  induction past with
  | nil =>
      cases r with
      | add x => simpa [granted, Request.edge?] using eq_comm
      | _ => simp [granted, Request.edge?]
  | cons q past ih =>
      simp only [granted, List.mem_toFinset, List.mem_filterMap] at ih ⊢
      by_cases first : q = .freeze
      · -- Behind it nothing is granted, with or without the last request.
        simp [first]
      · simp only [List.cons_append, List.takeWhile_cons, first, bne_iff_ne, ne_eq,
          not_false_eq_true, if_true, List.mem_cons, exists_eq_or_imp, ih, Ne.symm first, false_or,
          or_assoc]

/-- The edges of a graph are those granted, no name is kept without one, and it is frozen exactly if
    it was asked to be. -/
structure Holds (past : List Request) (g : CallerGraph) : Prop where
  frozen_iff : g.frozen = true ↔ .freeze ∈ past
  filled : g.Filled
  mem_edges : ∀ e, e ∈ g.edges ↔ e ∈ granted past

theorem serve_add_of_frozen {g : CallerGraph} (frozen : g.frozen = true) (e : Edge) :
    g.serve (.add e) = (.refused ⟨e⟩, g) := by
  simp only [serve, add_eq, frozen, if_true]

theorem serve_add_of_open {g : CallerGraph} (unfrozen : g.frozen = false) (e : Edge) :
    g.serve (.add e) = (.done, g.withEdge e) := by
  simp only [serve, add_eq, unfrozen, Bool.false_eq_true, if_false]

theorem serve_question (g : CallerGraph) {r : Request} (question : r.isQuestion = true) :
    (g.serve r).2 = g := by
  cases r with
  | add | freeze => cases question
  | _ => rfl

namespace Holds

variable {past : List Request} {g : CallerGraph}

theorem initial : Holds [] empty where
  frozen_iff := by simp [empty]
  filled := filled_empty
  mem_edges e := by simp [granted]

theorem unfrozen_iff (holds : Holds past g) : g.frozen = false ↔ .freeze ∉ past := by
  rw [← holds.frozen_iff, Bool.not_eq_true]

/-- A request that leaves the graph as it is grants no edge. -/
theorem unchanged (holds : Holds past g) {r : Request} (quiet : r ≠ .freeze)
    (grantsNone : ∀ e, .freeze ∉ past → r ≠ .add e) : Holds (past ++ [r]) g where
  frozen_iff := by simp [holds.frozen_iff, quiet.symm]
  filled := holds.filled
  mem_edges e := by
    rw [granted_concat, holds.mem_edges]
    constructor
    · exact .inl
    · rintro (before | ⟨unfrozen, added⟩)
      · exact before
      · exact absurd added (grantsNone e unfrozen)

theorem serve (holds : Holds past g) (r : Request) : Holds (past ++ [r]) (g.serve r).2 := by
  cases r with
  | add e =>
      cases frozen : g.frozen with
      | true =>
          rw [serve_add_of_frozen frozen]
          refine holds.unchanged nofun ?_
          intro _ unfrozen
          exact absurd (holds.frozen_iff.mp frozen) unfrozen
      | false =>
          rw [serve_add_of_open frozen]
          have unfrozen := holds.unfrozen_iff.mp frozen
          refine ⟨?_, holds.filled.withEdge e, ?_⟩
          · simp [frozen, unfrozen]
          · intro x
            rw [granted_concat, mem_withEdge, holds.mem_edges]
            simp [unfrozen, eq_comm]
  | freeze =>
      refine ⟨?_, holds.filled, ?_⟩
      · simp [CallerGraph.serve, CallerGraph.freeze]
      · intro x
        rw [granted_concat]
        exact (holds.mem_edges x).trans (by simp)
  | _ => exact holds.unchanged nofun nofun

theorem keeps (holds : Holds past g) : g.Keeps (granted past) where
  names := g.callers.unique
  sets row inside := ⟨holds.filled row inside, row.2.unique⟩
  edges callee m := by
    rw [← holds.mem_edges, ← mem_callersOf, mem_callersOf_iff]
    simp only [CallerTable.get?_eq_some_iff]

theorem contains_iff (holds : Holds past g) (callee : String) :
    g.contains callee = true ↔ ∃ m, ⟨callee, m⟩ ∈ granted past := by
  simp only [holds.filled.contains_iff, holds.mem_edges]

theorem edgeCount_eq (holds : Holds past g) : g.edgeCount = (granted past).card := by
  have edges : g.edges.toFinset = granted past := by
    ext e
    rw [List.mem_toFinset, holds.mem_edges]
  rw [← length_edges, ← edges, List.toFinset_card_of_nodup g.nodup_edges]

theorem size_eq (holds : Holds past g) : g.size = ((granted past).image (·.callee)).card := by
  have names : g.calleeNames.toFinset = (granted past).image (·.callee) := by
    ext name
    rw [List.mem_toFinset, mem_calleeNames_iff, holds.contains_iff, Finset.mem_image]
    constructor
    · rintro ⟨m, inside⟩
      exact ⟨_, inside, rfl⟩
    · rintro ⟨e, inside, rfl⟩
      exact ⟨e.caller, inside⟩
  rw [← length_calleeNames, ← names, List.toFinset_card_of_nodup]
  exact g.calleeNames_increasing.imp String.ne_of_lt

theorem fits (holds : Holds past g) (r : Request) : Fits past r (g.serve r).1 := by
  cases r with
  | add e =>
      cases frozen : g.frozen with
      | true => simp [Fits, serve_add_of_frozen frozen, holds.frozen_iff.mp frozen]
      | false => simp [Fits, serve_add_of_open frozen, holds.unfrozen_iff.mp frozen]
  | freeze => rfl
  | frozen =>
      refine congrArg Answer.flag ?_
      rw [Bool.eq_iff_iff, holds.frozen_iff, decide_eq_true_eq]
  | callersOf callee =>
      refine ⟨_, rfl, g.nodup_callersOf callee, ?_⟩
      intro m
      rw [mem_callersOf, holds.mem_edges]
  | contains callee => exact ⟨_, rfl, holds.contains_iff callee⟩
  | calleeNames =>
      refine ⟨_, rfl, g.calleeNames_increasing, ?_⟩
      intro name
      rw [mem_calleeNames_iff, holds.contains_iff]
  | size => exact congrArg Answer.number holds.size_eq
  | edgeCount => exact congrArg Answer.number holds.edgeCount_eq

end Holds

/-! ## Whole runs -/

theorem after_append (g : CallerGraph) (past later : List Request) :
    g.after (past ++ later) = (g.after past).after later := by
  induction past generalizing g with
  | nil => rfl
  | cons r past ih => exact ih _

theorem answers_append (g : CallerGraph) (past later : List Request) :
    g.answers (past ++ later) = g.answers past ++ (g.after past).answers later := by
  induction past generalizing g with
  | nil => rfl
  | cons r past ih => exact congrArg _ (ih _)

theorem length_answers (g : CallerGraph) (run : List Request) :
    (g.answers run).length = run.length := by
  induction run generalizing g with
  | nil => rfl
  | cons r run ih => exact congrArg (· + 1) (ih _)

theorem holds_after (past : List Request) : Holds past (empty.after past) := by
  induction past using List.reverseRecOn with
  | nil => exact .initial
  | append_singleton past r ih =>
      rw [after_append]
      exact ih.serve r

/-- At every point of a run the graph keeps the edges that were asked for before it was first frozen,
    each name with a set of callers that is not empty. Each request is answered from this set of
    edges; and a question, also for a name that is not called, or an edge that comes too late changes
    neither the graph nor any other answer of the run. -/
theorem run_refines_granted (past : List Request) (r : Request) (later : List Request) :
    (empty.after past).Keeps (granted past) ∧
    (∃ answer, (empty.answers (past ++ r :: later))[past.length]? = some answer ∧
      Fits past r answer) ∧
    (r.isQuestion = true ∨ (r.edge?.isSome = true ∧ .freeze ∈ past) →
      empty.after (past ++ [r]) = empty.after past ∧
      (empty.answers (past ++ r :: later)).eraseIdx past.length =
        empty.answers (past ++ later)) := by
  have holds := holds_after past
  have place : past.length = (empty.answers past).length := (length_answers ..).symm
  rw [answers_append, answers]
  refine ⟨holds.keeps, ⟨_, ?_, holds.fits r⟩, ?_⟩
  · rw [place, List.getElem?_append_right le_rfl, Nat.sub_self]
    rfl
  · intro quiet
    have same : ((empty.after past).serve r).2 = empty.after past := by
      rcases quiet with question | ⟨edge, frozen⟩
      · exact serve_question _ question
      · cases r with
        | add e => rw [serve_add_of_frozen (holds.frozen_iff.mpr frozen)]
        | _ => cases edge
    refine ⟨?_, ?_⟩
    · rw [after_append]
      exact same
    · rw [place, List.eraseIdx_append_of_length_le le_rfl, Nat.sub_self, same, answers_append]
      rfl

end CallOrigin.CallerGraph
