import CallOrigin.Calls.Graph
import CallOrigin.Proofs.Orders

/-! # Edges of a caller graph

A graph keeps sets of callers by name, and stands for the edges from a name to each method in its
set. A graph that is not frozen takes every edge, and takes it once. As long as no name has an empty
set, what can be asked of a graph depends on its edges alone: graphs with the same edges are alike.
-/

namespace CallOrigin

/-! ## Tables of callers -/

theorem MethodSet.mem_insert {s : MethodSet} {m other : Method} :
    other ∈ (s.insert m).methods ↔ other ∈ s.methods ∨ other = m := by
  rw [insert]
  split
  next present =>
    constructor
    · exact .inl
    · rintro (inside | rfl)
      · exact inside
      · exact present
  next => rw [List.mem_cons, or_comm]

namespace CallerTable

variable (t : CallerTable) {name other : String}

/-- A name has one row at most, so that the row found for it is any that it has. -/
theorem get?_eq_some_iff {s : MethodSet} : t.get? name = some s ↔ (name, s) ∈ t.rows := by
  obtain ⟨rows, unique⟩ := t
  rw [get?]
  induction rows with
  | nil => simp
  | cons row rows ih =>
      obtain ⟨key, own⟩ := row
      rw [List.map_cons, List.nodup_cons] at unique
      rw [List.lookup_cons, List.mem_cons, Prod.mk.injEq]
      by_cases here : name = key
      · subst here
        have alone : (name, s) ∉ rows := fun inside => unique.1 (List.mem_map.mpr ⟨_, inside, rfl⟩)
        simp [alone, eq_comm]
      · rw [beq_eq_false_iff_ne.mpr here]
        simpa [here] using ih unique.2

theorem get?_withDefault :
    (t.withDefault name).get? other =
      if other = name then some ((t.get? name).getD .empty) else t.get? other := by
  rw [withDefault]
  split
  next present =>
    split
    next same =>
      subst same
      obtain ⟨⟨_, s⟩, inside, rfl⟩ := List.mem_map.mp present
      rw [(get?_eq_some_iff t).mpr inside, Option.getD_some]
    next => rfl
  next absent =>
    split
    next same =>
      subst same
      cases found : t.get? other with
      | none => simp [get?]
      | some s => exact absurd (List.mem_map_of_mem ((get?_eq_some_iff t).mp found)) absent
    next apart => rw [get?, List.lookup_cons, beq_eq_false_iff_ne.mpr apart, get?]

theorem get?_modify (change : MethodSet → MethodSet) :
    (t.modify name change).get? other =
      (t.get? other).map fun s => if other = name then change s else s := by
  simp only [get?, modify]
  induction t.rows with
  | nil => rfl
  | cons row rows ih =>
      obtain ⟨key, s⟩ := row
      rw [List.map_cons, modifyRow]
      simp only [List.lookup_cons, ih]
      by_cases here : other = key
      · simp [here]
      · rw [beq_eq_false_iff_ne.mpr here]

theorem get?_insert (m : Method) :
    (t.insert name m).get? other =
      if other = name then some (((t.get? name).getD .empty).insert m) else t.get? other := by
  rw [insert, get?_modify, get?_withDefault]
  by_cases same : other = name
  · simp [same]
  · simp [same]

end CallerTable

namespace CallerGraph

/-! ## Edges -/

def edges (g : CallerGraph) : List Edge :=
  g.callers.rows.flatMap fun row => row.2.methods.map (Edge.mk row.1)

@[simp]
theorem edges_empty : empty.edges = [] :=
  rfl

theorem mem_callersOf_iff (g : CallerGraph) (callee : String) (m : Method) :
    m ∈ g.callersOf callee ↔ ∃ s, g.callers.get? callee = some s ∧ m ∈ s.methods := by
  rw [callersOf]
  split
  next s found => simp [found]
  next none => simp [none]

theorem mem_callersOf (g : CallerGraph) (callee : String) (m : Method) :
    m ∈ g.callersOf callee ↔ ⟨callee, m⟩ ∈ g.edges := by
  simp only [mem_callersOf_iff, edges, List.mem_flatMap, List.mem_map, Edge.mk.injEq,
    CallerTable.get?_eq_some_iff]
  constructor
  · rintro ⟨s, row, inside⟩
    exact ⟨_, row, m, inside, rfl, rfl⟩
  · rintro ⟨⟨_, s⟩, row, _, inside, rfl, rfl⟩
    exact ⟨s, row, inside⟩

theorem nodup_callersOf (g : CallerGraph) (callee : String) : (g.callersOf callee).Nodup := by
  rw [callersOf]
  split
  next s _ => exact s.unique
  next => exact List.nodup_nil

/-- No edge is there twice, since no name has two sets and no method is twice in one. -/
theorem nodup_edges (g : CallerGraph) : g.edges.Nodup := by
  refine List.nodup_flatMap.mpr ⟨?_, ?_⟩
  · intro row _
    exact row.2.unique.map fun m other same => congrArg Edge.caller same
  · refine (List.pairwise_map.mp g.callers.unique).imp fun {row other} apart e inside inside' => ?_
    obtain ⟨_, _, rfl⟩ := List.mem_map.mp inside
    obtain ⟨_, _, same⟩ := List.mem_map.mp inside'
    exact apart (congrArg Edge.callee same).symm

theorem length_edges (g : CallerGraph) : g.edges.length = g.edgeCount := by
  rw [edges, edgeCount]
  induction g.callers.rows with
  | nil => rfl
  | cons row rows ih =>
      rw [List.flatMap_cons, List.length_append, List.length_map, ih, List.foldr_cons]
      rfl

/-! ## Adding edges -/

/-- The graph with an edge, whether or not it was there. -/
def withEdge (g : CallerGraph) (e : Edge) : CallerGraph :=
  { g with callers := g.callers.insert e.callee e.caller }

def withEdges (g : CallerGraph) (es : List Edge) : CallerGraph :=
  es.foldl withEdge g

theorem add_eq (g : CallerGraph) (e : Edge) :
    g.add e = if g.frozen then .error ⟨e⟩ else .ok (g.withEdge e) :=
  rfl

@[simp]
theorem frozen_withEdge (g : CallerGraph) (e : Edge) : (g.withEdge e).frozen = g.frozen :=
  rfl

@[simp]
theorem mem_withEdge (g : CallerGraph) (e x : Edge) :
    x ∈ (g.withEdge e).edges ↔ x ∈ g.edges ∨ x = e := by
  obtain ⟨callee, caller⟩ := e
  obtain ⟨name, m⟩ := x
  rw [← mem_callersOf, ← mem_callersOf, mem_callersOf_iff, mem_callersOf_iff, withEdge,
    CallerTable.get?_insert, Edge.mk.injEq]
  by_cases same : name = callee
  · subst same
    simp only [if_true, Option.some.injEq, exists_eq_left', MethodSet.mem_insert, true_and]
    refine or_congr_left ?_
    cases g.callers.get? name with
    | none => simp [MethodSet.empty]
    | some s => simp
  · simp [same]

@[simp]
theorem frozen_withEdges (g : CallerGraph) (es : List Edge) :
    (g.withEdges es).frozen = g.frozen := by
  induction es generalizing g with
  | nil => rfl
  | cons e es ih => exact (ih (g.withEdge e)).trans (frozen_withEdge g e)

@[simp]
theorem mem_withEdges (g : CallerGraph) (es : List Edge) (x : Edge) :
    x ∈ (g.withEdges es).edges ↔ x ∈ g.edges ∨ x ∈ es := by
  induction es generalizing g with
  | nil => simp [withEdges]
  | cons e es ih =>
      change x ∈ ((g.withEdge e).withEdges es).edges ↔ _
      rw [ih, mem_withEdge, List.mem_cons, or_assoc]

theorem addAll_of_open {g : CallerGraph} (unfrozen : g.frozen = false) (es : List Edge) :
    g.addAll es = .ok (g.withEdges es) := by
  induction es generalizing g with
  | nil => rfl
  | cons e es ih =>
      have taken : g.add e = .ok (g.withEdge e) := by
        rw [add_eq, unfrozen]
        rfl
      have rest := ih (g := g.withEdge e) (by rw [frozen_withEdge, unfrozen])
      rw [addAll, List.foldlM_cons, taken]
      exact rest

/-! ## Questions to a graph -/

/-- That no name is kept without a caller. -/
def Filled (g : CallerGraph) : Prop :=
  ∀ row ∈ g.callers.rows, row.2.methods ≠ []

theorem filled_empty : empty.Filled := by
  intro row inside
  cases inside

/-- Adding makes an empty set only to put a method into it. -/
theorem Filled.withEdge {g : CallerGraph} (filled : g.Filled) (e : Edge) :
    (g.withEdge e).Filled := by
  rintro ⟨name, s⟩ row
  rw [CallerGraph.withEdge, ← CallerTable.get?_eq_some_iff, CallerTable.get?_insert] at row
  split at row
  · cases row
    exact List.ne_nil_of_mem (MethodSet.mem_insert.mpr (.inr rfl))
  · exact filled _ ((CallerTable.get?_eq_some_iff _).mp row)

theorem contains_iff_mem (g : CallerGraph) (callee : String) :
    g.contains callee = true ↔ callee ∈ g.callers.rows.map (·.1) := by
  rw [contains, Option.isSome_iff_exists, List.mem_map]
  simp only [CallerTable.get?_eq_some_iff]
  constructor
  · rintro ⟨s, row⟩
    exact ⟨_, row, rfl⟩
  · rintro ⟨⟨_, s⟩, row, rfl⟩
    exact ⟨s, row⟩

theorem mem_calleeNames_iff (g : CallerGraph) (name : String) :
    name ∈ g.calleeNames ↔ g.contains name = true := by
  rw [calleeNames, List.mem_mergeSort, contains_iff_mem]

/-- A name that is kept is the start of an edge. -/
theorem Filled.contains_iff {g : CallerGraph} (filled : g.Filled) (callee : String) :
    g.contains callee = true ↔ ∃ m, ⟨callee, m⟩ ∈ g.edges := by
  rw [contains, Option.isSome_iff_exists]
  simp only [← mem_callersOf, mem_callersOf_iff]
  constructor
  · rintro ⟨s, found⟩
    obtain ⟨m, inside⟩ :=
      List.exists_mem_of_ne_nil _ (filled _ ((CallerTable.get?_eq_some_iff _).mp found))
    exact ⟨m, s, found, inside⟩
  · rintro ⟨m, s, found, _⟩
    exact ⟨s, found⟩

theorem calleeNames_increasing (g : CallerGraph) : g.calleeNames.Pairwise (· < ·) :=
  mergeSort_increasing g.callers.unique

theorem length_calleeNames (g : CallerGraph) : g.calleeNames.length = g.size := by
  rw [calleeNames, List.length_mergeSort, List.length_map, size]

/-- Graphs that keep the same names and have the same edges. -/
structure Alike (g h : CallerGraph) : Prop where
  contains : ∀ callee, g.contains callee = h.contains callee
  mem_edges : ∀ e, e ∈ g.edges ↔ e ∈ h.edges

theorem Filled.alike {g h : CallerGraph} (filled : g.Filled) (filled' : h.Filled)
    (same : ∀ e, e ∈ g.edges ↔ e ∈ h.edges) : g.Alike h where
  contains callee := by
    rw [Bool.eq_iff_iff, filled.contains_iff, filled'.contains_iff]
    simp only [same]
  mem_edges := same

namespace Alike

variable {g h : CallerGraph} (alike : g.Alike h)
include alike

theorem callersOf_perm (callee : String) : (g.callersOf callee).Perm (h.callersOf callee) := by
  refine (List.perm_ext_iff_of_nodup (g.nodup_callersOf _) (h.nodup_callersOf _)).mpr fun m => ?_
  rw [mem_callersOf, mem_callersOf, alike.mem_edges]

theorem edgeCount_eq : g.edgeCount = h.edgeCount := by
  rw [← length_edges, ← length_edges]
  exact ((List.perm_ext_iff_of_nodup g.nodup_edges h.nodup_edges).mpr alike.mem_edges).length_eq

theorem calleeNames_eq : g.calleeNames = h.calleeNames := by
  refine eq_of_increasing g.calleeNames_increasing h.calleeNames_increasing fun name => ?_
  rw [mem_calleeNames_iff, mem_calleeNames_iff, alike.contains]

theorem size_eq : g.size = h.size := by
  rw [← length_calleeNames, ← length_calleeNames, alike.calleeNames_eq]

end Alike

end CallerGraph

end CallOrigin
