import CallOrigin.Proofs.Positions
import Mathlib.Data.List.Forall2
import Mathlib.Logic.Function.Iterate

/-! # The walk with a stack is pre-order

A walk keeps on a stack what it has still to go through. One round passes the top of the stack and
puts its children in its place, the first of them on top. Two facts about a round carry everything:
what was passed, followed by the walk of the stack from its top downward, stays the same; and there
is one node less below the stack. So a walk ends after as many rounds as its tree has nodes, and
what it has passed by then is the pre-order of the tree.
-/

namespace CallOrigin

/-! ## Rounds -/

/-- Below an occurrence there is itself and what is below its children. -/
theorem Occurrence.pending_cons (o : Occurrence) (rest : List Occurrence) :
    pending (o :: rest) = pending (o.children ++ rest) + 1 := by
  rw [pending, pending, List.map_cons, List.map_append, map_node_children, Node.sizeAll,
    Node.sizeAll_append, Node.size_eq]
  omega

/-- A walk under way. -/
structure StackWalk where
  /-- What the walk has passed, in that order. -/
  passed : List Occurrence
  /-- What it has still to go through. The last one is the top. -/
  stack : List Occurrence

namespace StackWalk

def start (o : Occurrence) : StackWalk := ⟨[], [o]⟩

/-- Passes the top of the stack, and puts its children on the stack, the last one first. With
    nothing on the stack the walk has ended. -/
def round (w : StackWalk) : StackWalk :=
  match w.stack.getLast? with
  | none => w
  | some o => ⟨w.passed ++ [o], w.stack.dropLast ++ o.children.reverse⟩

/-- All that a walk will have passed in the end. -/
def whole (w : StackWalk) : List Occurrence :=
  w.passed ++ Occurrence.walk w.stack.reverse

/-- How many nodes a walk has still to pass. -/
def remaining (w : StackWalk) : Nat :=
  Occurrence.pending w.stack.reverse

theorem round_of_empty (passed : List Occurrence) : round ⟨passed, []⟩ = ⟨passed, []⟩ := rfl

theorem round_of_top (passed rest : List Occurrence) (o : Occurrence) :
    round ⟨passed, rest ++ [o]⟩ = ⟨passed ++ [o], rest ++ o.children.reverse⟩ := by
  simp [round]

theorem whole_round (w : StackWalk) : w.round.whole = w.whole := by
  obtain ⟨passed, stack⟩ := w
  rcases List.eq_nil_or_concat' stack with rfl | ⟨rest, o, rfl⟩
  · rw [round_of_empty]
  · rw [round_of_top]
    simp [whole, Occurrence.walk]

theorem remaining_round (w : StackWalk) : w.round.remaining = w.remaining - 1 := by
  obtain ⟨passed, stack⟩ := w
  rcases List.eq_nil_or_concat' stack with rfl | ⟨rest, o, rfl⟩
  · -- nothing remains, and a walk that has ended stays as it is
    rw [round_of_empty]
    rfl
  · rw [round_of_top]
    simp [remaining, Occurrence.pending_cons]

theorem remaining_eq_zero_iff (w : StackWalk) : w.remaining = 0 ↔ w.stack = [] := by
  obtain ⟨passed, stack⟩ := w
  rcases List.eq_nil_or_concat' stack with rfl | ⟨rest, o, rfl⟩
  · simp [remaining, Occurrence.pending, Node.sizeAll]
  · simp [remaining, Occurrence.pending_cons]

theorem whole_rounds (w : StackWalk) (rounds : Nat) : (round^[rounds] w).whole = w.whole := by
  induction rounds with
  | zero => rfl
  | succ rounds ih => rw [Function.iterate_succ_apply', whole_round, ih]

theorem remaining_rounds (w : StackWalk) (rounds : Nat) :
    (round^[rounds] w).remaining = w.remaining - rounds := by
  induction rounds with
  | zero => rfl
  | succ rounds ih =>
      rw [Function.iterate_succ_apply', remaining_round, ih]
      omega

theorem remaining_start (o : Occurrence) : (start o).remaining = o.node.size := by
  simp [start, remaining, Occurrence.pending, Node.sizeAll]

/-- A walk ends with the round that passes the last node, and not before. -/
theorem ended_iff (o : Occurrence) (rounds : Nat) :
    (round^[rounds] (start o)).stack = [] ↔ o.node.size ≤ rounds := by
  rw [← remaining_eq_zero_iff, remaining_rounds, remaining_start]
  omega

theorem passed_of_ended {o : Occurrence} {rounds : Nat}
    (ended : (round^[rounds] (start o)).stack = []) :
    (round^[rounds] (start o)).passed = Occurrence.walk [o] := by
  have same : (round^[rounds] (start o)).whole = Occurrence.walk [o] :=
    whole_rounds (start o) rounds
  rw [whole, ended, List.reverse_nil, Occurrence.walk, List.append_nil] at same
  exact same

end StackWalk

/-! ## Pre-order of positions -/

namespace Node

/-- That positions are listed in pre-order: every position of a tree once, each before what is below
    it and after all that is at or below an earlier child of the same node. -/
structure ListedInPreorder (tree : Node) (order : List Position) : Prop where
  once : order.Nodup
  complete : ∀ p, p ∈ order ↔ (tree.at? p).isSome
  above : ∀ (p : Position) i rest (k m : Nat),
    order[k]? = some p → order[m]? = some (p ++ i :: rest) → k < m
  beside : ∀ (p : Position) i j below below' (k m : Nat), i < j →
    order[k]? = some (p ++ i :: below) → order[m]? = some (p ++ j :: below') → k < m

theorem index_lt_of_sorted {order : List Position} (sorted : order.Pairwise (· < ·)) {k m : Nat}
    {p q : Position} (first : order[k]? = some p) (second : order[m]? = some q) (before : p < q) :
    k < m := by
  obtain ⟨inside, rfl⟩ := List.getElem?_eq_some_iff.mp first
  obtain ⟨inside', rfl⟩ := List.getElem?_eq_some_iff.mp second
  rcases Nat.lt_trichotomy k m with earlier | rfl | later
  · exact earlier
  · exact absurd before (List.lt_irrefl _)
  · have behind := List.pairwise_iff_getElem.mp sorted m k inside' inside later
    exact absurd (List.lt_trans before behind) (List.lt_irrefl _)

theorem listedInPreorder_positions (tree : Node) : tree.ListedInPreorder tree.positions where
  once := by
    refine tree.positions_sorted.imp ?_
    rintro p _ before rfl
    exact List.lt_irrefl p before
  complete := tree.mem_positions
  above p i rest k m first second :=
    index_lt_of_sorted tree.positions_sorted first second (Position.lt_below p i rest)
  beside p i j below below' k m earlier first second := by
    have before : p ++ i :: below < p ++ j :: below' :=
      List.append_left_lt (List.cons_lt_cons_iff.mpr (.inl earlier))
    exact index_lt_of_sorted tree.positions_sorted first second before

/-- That an occurrence is what is at a position, and that looking upward from it finds the first
    node of the wanted kinds on the way from its parent to the root, or nothing if there is none. -/
structure SeenAt (tree : Node) (p : Position) (o : Occurrence) : Prop where
  found : tree.at? p = some o.node
  nearest : ∀ kinds d, o.enclosing? kinds = some d ↔ tree.Nearest kinds p d
  nothing : ∀ kinds, o.enclosing? kinds = none ↔
    ∀ depth < p.length, ∀ n, tree.at? (p.take depth) = some n → n.kind ∉ kinds

theorem seenAt_of_reached {tree : Node} {p : Position} {o : Occurrence}
    (reached : tree.occurrenceAt? p = some o) : tree.SeenAt p o where
  found := at?_of_occurrenceAt? reached
  nearest := enclosing?_eq_some_iff reached
  nothing := enclosing?_eq_none_iff reached

end Node

namespace Occurrence

/-- The walk goes from position to position. -/
theorem forall₂_positions_walk (o : Occurrence) :
    List.Forall₂ (fun p passed => o.at? p = some passed) o.node.positions (walk [o]) := by
  have listed := walk_singleton o
  rw [eq_comm, ← List.forall₂_eq_eq_eq, List.forall₂_map_left_iff, List.forall₂_map_right_iff]
    at listed
  exact listed

/-- A walk that begins anywhere in a tree ends after one round for each node at or below its
    beginning. It passes them in recursive pre-order, each once, and from each of them looking
    upward goes to the root of the whole tree, also above the beginning of the walk. -/
theorem walk_in_preorder {tree : Node} {beginning : Position} {o : Occurrence}
    (reached : tree.occurrenceAt? beginning = some o) :
    (∀ rounds, (StackWalk.round^[rounds] (.start o)).stack = [] ↔ o.node.size ≤ rounds) ∧
    (StackWalk.round^[o.node.size] (.start o)).passed = walk [o] ∧
    (walk [o]).map (·.node) = o.node.preorder ∧ o.node.descendants = o.node.preorder ∧
    ∃ order, o.node.ListedInPreorder order ∧
      List.Forall₂ (fun p passed => tree.SeenAt (beginning ++ p) passed) order (walk [o]) := by
  refine ⟨StackWalk.ended_iff o, ?_, ?_, o.node.descendants_eq, o.node.positions,
    o.node.listedInPreorder_positions, ?_⟩
  · exact StackWalk.passed_of_ended ((StackWalk.ended_iff o _).mpr (Nat.le_refl _))
  · rw [walk_map_node]
    simp [Node.preorderAll]
  · -- going on from the beginning is going on in the tree, so what is above is that of the tree
    refine o.forall₂_positions_walk.imp fun p passed there => ?_
    apply Node.seenAt_of_reached
    rw [Node.occurrenceAt?_append reached, there]

/-- A method whose two parameters are missing from the source, so that they are equal nodes. -/
private def twinParameters : Node :=
  let missing := Node.mk "identifier" true none 7 7 ⟨0, 7⟩ []
  Node.mk "compilation_unit" true none 0 11 ⟨0, 0⟩
    [Node.mk "method_declaration" true none 0 11 ⟨0, 0⟩ [missing, missing]]

/-- A walk from the method takes three rounds, and looking upward from the second of the equal nodes
    leads to the root, which is above the method. -/
theorem walk_in_preorder_twins :
    ∃ o, twinParameters.occurrenceAt? [0] = some o ∧
      (StackWalk.round^[3] (.start o)).stack = [] ∧
      (StackWalk.round^[3] (.start o)).passed = walk [o] ∧
      ∃ second ∈ walk [o], second.node.kind = "identifier" ∧
        second.enclosing? ["compilation_unit"] = some twinParameters := by
  have method : twinParameters.at? [0] = some _ := rfl
  obtain ⟨o, reached, node⟩ := Node.exists_occurrenceAt? method
  obtain ⟨ended, passed, _, _, order, listed, seen⟩ := walk_in_preorder reached
  have size : o.node.size = 3 := by rw [node]; rfl
  rw [size] at ended passed
  have inside : [1] ∈ order := (listed.complete [1]).mpr (by rw [node]; rfl)
  obtain ⟨second, member, place⟩ : ∃ second ∈ walk [o], twinParameters.SeenAt [0, 1] second := by
    obtain ⟨k, short, position⟩ := List.getElem_of_mem inside
    have paired := seen.get short (seen.length_eq ▸ short)
    rw [List.get_eq_getElem, position] at paired
    exact ⟨_, List.get_mem _ _, paired⟩
  have root : twinParameters.Nearest ["compilation_unit"] [0, 1] twinParameters := by
    refine ⟨0, by decide, rfl, by decide, ?_⟩
    intro deeper inside between n found
    obtain rfl : deeper = 1 := by
      simp only [List.length_cons, List.length_nil] at inside
      omega
    cases found
    decide
  have kind : some "identifier" = some second.node.kind :=
    congrArg (Option.map Node.kind) place.found
  exact ⟨o, reached, (ended 3).mpr (Nat.le_refl 3), passed, second, member,
    (Option.some.inj kind).symm, (place.nearest _ _).mpr root⟩

end Occurrence

end CallOrigin
