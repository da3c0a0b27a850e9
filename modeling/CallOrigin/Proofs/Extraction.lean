import CallOrigin.Proofs.CallSites
import CallOrigin.Proofs.Edges

/-! # Extraction finds every call site once

Adding what a tree contributes to a graph that is not frozen adds the edge of every call site and
no other, and gives one call of the API for each call site of the API, in pre-order.
-/

namespace CallOrigin

theorem mem_extract_edges (apis : List String) (file : String) (source : List UInt8) (tree : Node)
    (e : Edge) :
    e ∈ (extract apis file source tree).edges ↔
      ∃ p c, NamedCall.At source tree p c ∧ e = ⟨c.callee, ⟨c.methodName, file⟩⟩ := by
  simp only [extract, List.mem_map, NamedCall.mem_all, NamedCall.edge]
  constructor
  · rintro ⟨c, ⟨p, site⟩, rfl⟩
    exact ⟨p, c, site, rfl⟩
  · rintro ⟨p, c, site, rfl⟩
    exact ⟨c, ⟨p, site⟩, rfl⟩

def apiSites (apis : List String) (source : List UInt8) (tree : Node) :
    List (Position × NamedCall) :=
  (NamedCall.sites source tree).filter (apis.contains ·.2.callee)

theorem extract_calls (apis : List String) (file : String) (source : List UInt8) (tree : Node) :
    (extract apis file source tree).calls =
      (apiSites apis source tree).map (·.2.apiCall source file) := by
  simp only [extract, NamedCall.all_eq, List.filter_map, List.map_map, apiSites, Function.comp_def]

theorem mem_apiSites (apis : List String) (source : List UInt8) (tree : Node) (p : Position)
    (c : NamedCall) :
    (p, c) ∈ apiSites apis source tree ↔ c.At source tree p ∧ c.callee ∈ apis := by
  rw [apiSites, List.mem_filter, NamedCall.mem_sites, List.contains_iff_mem]

theorem apiSites_sorted (apis : List String) (source : List UInt8) (tree : Node) :
    (apiSites apis source tree).Pairwise (·.1 < ·.1) :=
  (NamedCall.sites_sorted source tree).filter _

theorem CallerGraph.addExtraction_of_open {g : CallerGraph} (unfrozen : g.frozen = false)
    (x : Extraction) : g.addExtraction x = .ok (g.withEdges x.edges, x.calls) := by
  rw [addExtraction, addAll_of_open unfrozen]
  rfl

/-- Extraction loses no call, invents none and counts none twice. The calls of the API are listed
    by position, and a list that is strictly sorted is known by its members. -/
theorem CallerGraph.addExtraction_exact {g : CallerGraph} (unfrozen : g.frozen = false)
    (apis : List String) (file : String) (source : List UInt8) (tree : Node) :
    ∃ (after : CallerGraph) (calls : List ApiCall),
      g.addExtraction (extract apis file source tree) = .ok (after, calls) ∧
      (∀ e, e ∈ after.edges ↔ e ∈ g.edges ∨
        ∃ p c, NamedCall.At source tree p c ∧ e = ⟨c.callee, ⟨c.methodName, file⟩⟩) ∧
      after.edges.Nodup ∧
      ∃ sites : List (Position × NamedCall),
        sites.Pairwise (·.1 < ·.1) ∧
        (∀ p c, (p, c) ∈ sites ↔ c.At source tree p ∧ c.callee ∈ apis) ∧
        calls = sites.map fun (_, c) =>
          { file := file
            api := c.callee
            endpoint := (c.method.firstArgument source c.call).text
            caller := ⟨c.methodName, file⟩
            line := c.call.point.row
            col := c.call.point.col
            top := none
            control := none } := by
  refine ⟨_, _, addExtraction_of_open unfrozen _, ?_, nodup_edges _, apiSites apis source tree,
    apiSites_sorted .., mem_apiSites apis source tree, extract_calls ..⟩
  intro e
  rw [mem_withEdges, mem_extract_edges]

/-- A call `B(A())` in the body of a method `M`. -/
private def nestedCalls : Node :=
  .methodAround 17
    [.callOnLine none 9 15 [.onLine "argument" true none 11 14 [.callOnLine none 11 14 []]]]

/-- The inner one of two nested calls is found in a graph that is not frozen. -/
theorem CallerGraph.addExtraction_exact_nested :
    CallerGraph.empty.frozen = false ∧
      ∃ after calls,
        CallerGraph.empty.addExtraction
          (extract ["A"] "m.cs" (Utf8.encode "void M(){B(A());}") nestedCalls) =
            .ok (after, calls) ∧
        ⟨"A", ⟨"M", "m.cs"⟩⟩ ∈ after.edges ∧ ∃ c ∈ calls, c.api = "A" ∧ c.col = 11 := by
  obtain ⟨after, calls, taken, edges, _, sites, _, listed, rfl⟩ :=
    CallerGraph.addExtraction_exact (g := .empty) rfl ["A"] "m.cs"
      (Utf8.encode "void M(){B(A());}") nestedCalls
  have inner : (NamedCall.at? (Utf8.encode "void M(){B(A());}") nestedCalls [1, 0, 1, 0, 0]).map
      (fun c => (c.callee, c.methodName, c.call.point.col)) = some ("A", "M", 11) := by
    rfl
  obtain ⟨c, found, parts⟩ := Option.map_eq_some_iff.mp inner
  obtain ⟨callee, method, column⟩ : c.callee = "A" ∧ c.methodName = "M" ∧ c.call.point.col = 11 := by
    simpa using parts
  have site := (NamedCall.at?_eq_some_iff ..).mp found
  refine ⟨rfl, after, _, taken, (edges _).mpr (.inr ⟨_, c, site, by rw [callee, method]⟩), _,
    List.mem_map.mpr ⟨_, (listed _ c).mpr ⟨site, by simp [callee]⟩, rfl⟩, callee, ?_⟩
  simp [column]

end CallOrigin
