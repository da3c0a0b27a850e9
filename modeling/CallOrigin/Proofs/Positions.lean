import CallOrigin.Syntax.Node
import Mathlib.Data.List.Basic
import Mathlib.Data.List.Induction

/-! # Positions in a tree

A position is the list of child numbers that leads from the root to a node. The lexicographic
order of positions is pre-order: a node comes before what is below it, and what is below one child
before what is below the next. The walk with a stack goes through all positions in that order, and
the nodes above a node are those at the shorter prefixes of its position.
-/

namespace CallOrigin

/-- The child numbers that lead from the root of a tree to a node. -/
abbrev Position := List Nat

/-- What is below a position comes after it. -/
theorem Position.lt_below (p : Position) (i : Nat) (rest : Position) : p < p ++ i :: rest := by
  have before : p ++ [] < p ++ i :: rest := List.append_left_lt (List.nil_lt_cons i rest)
  rwa [List.append_nil] at before

namespace Node

mutual
/-- The positions of the nodes of a tree, the root first. -/
def positions : Node → List Position
  | ⟨_, _, _, _, _, _, children⟩ => [] :: positionsFrom 0 children

def positionsFrom (i : Nat) : List Node → List Position
  | [] => []
  | n :: rest => n.positions.map (i :: ·) ++ positionsFrom (i + 1) rest
end

theorem preorder_eq (n : Node) : n.preorder = n :: preorderAll n.children := by
  cases n
  rw [preorder]

theorem preorderAll_append (xs ys : List Node) :
    preorderAll (xs ++ ys) = preorderAll xs ++ preorderAll ys := by
  induction xs with
  | nil => simp [preorderAll]
  | cons n rest ih => simp [preorderAll, ih]

@[simp]
theorem at?_nil (n : Node) : n.at? [] = some n := by
  rw [at?]

@[simp]
theorem at?_cons (n : Node) (i : Nat) (p : Position) :
    n.at? (i :: p) = n.children[i]?.bind (·.at? p) := by
  rw [at?]

mutual
theorem mem_positions (n : Node) (p : Position) : p ∈ n.positions ↔ (n.at? p).isSome := by
  cases n with
  | mk kind named field start stop point children =>
      rw [positions, List.mem_cons, mem_positionsFrom 0 children p]
      cases p with
      | nil => simp
      | cons i rest =>
          cases child : children[i]? with
          | none => simp [child]
          | some n => simp [child]
termination_by sizeOf n

theorem mem_positionsFrom (i : Nat) (ns : List Node) (p : Position) :
    p ∈ positionsFrom i ns ↔
      ∃ j rest n, p = (i + j) :: rest ∧ ns[j]? = some n ∧ (n.at? rest).isSome := by
  cases ns with
  | nil => simp [positionsFrom]
  | cons m ms =>
      rw [positionsFrom, List.mem_append, List.mem_map, mem_positionsFrom (i + 1) ms p]
      constructor
      · rintro (⟨rest, inside, rfl⟩ | ⟨j, rest, n, rfl, child, inside⟩)
        · exact ⟨0, rest, m, rfl, rfl, (mem_positions m rest).mp inside⟩
        · exact ⟨j + 1, rest, n, by rw [Nat.add_right_comm, Nat.add_assoc], child, inside⟩
      · rintro ⟨j, rest, n, rfl, child, inside⟩
        cases j with
        | zero =>
            cases child
            exact .inl ⟨rest, (mem_positions m rest).mpr inside, rfl⟩
        | succ j =>
            exact .inr ⟨j, rest, n, by rw [Nat.add_right_comm, Nat.add_assoc], child, inside⟩
termination_by sizeOf ns
end

mutual
/-- Positions are listed in lexicographic order, so none of them twice. -/
theorem positions_sorted (n : Node) : n.positions.Pairwise (· < ·) := by
  cases n with
  | mk kind named field start stop point children =>
      rw [positions, List.pairwise_cons]
      constructor
      · intro p below
        obtain ⟨j, rest, _, rfl, _⟩ := (mem_positionsFrom 0 children p).mp below
        exact List.nil_lt_cons _ _
      · exact positionsFrom_sorted 0 children
termination_by sizeOf n

theorem positionsFrom_sorted (i : Nat) (ns : List Node) :
    (positionsFrom i ns).Pairwise (· < ·) := by
  cases ns with
  | nil => exact List.Pairwise.nil
  | cons m ms =>
      rw [positionsFrom, List.pairwise_append]
      refine ⟨?_, positionsFrom_sorted (i + 1) ms, ?_⟩
      · rw [List.pairwise_map]
        exact (positions_sorted m).imp fun before => List.cons_lt_cons_self.mpr before
      · intro p first q later
        obtain ⟨rest, _, rfl⟩ := List.mem_map.mp first
        obtain ⟨j, rest', _, rfl, _⟩ := (mem_positionsFrom (i + 1) ms q).mp later
        exact List.cons_lt_cons_iff.mpr (.inl (by omega))
termination_by sizeOf ns
end

end Node

namespace Occurrence

def at? (o : Occurrence) (p : Position) : Option Occurrence :=
  p.foldlM (fun o i => o.children[i]?) o

@[simp]
theorem at?_nil (o : Occurrence) : o.at? [] = some o := rfl

@[simp]
theorem at?_cons (o : Occurrence) (i : Nat) (p : Position) :
    o.at? (i :: p) = o.children[i]?.bind (·.at? p) := rfl

theorem at?_append (o : Occurrence) (p q : Position) :
    o.at? (p ++ q) = (o.at? p).bind (·.at? q) := by
  induction p generalizing o with
  | nil => rfl
  | cons i p ih =>
      rw [List.cons_append, at?_cons, at?_cons]
      cases o.children[i]? with
      | none => rfl
      | some child => exact ih child

theorem at?_concat (o : Occurrence) (p : Position) (i : Nat) :
    o.at? (p ++ [i]) = (o.at? p).bind (·.children[i]?) := by
  simp [at?_append]

theorem getElem?_children (o : Occurrence) (i : Nat) :
    o.children[i]? = o.node.children[i]?.map (⟨·, o.node :: o.ancestors⟩) := by
  rw [children, List.getElem?_map]

theorem map_node_children (o : Occurrence) : o.children.map (·.node) = o.node.children := by
  simp [children, Function.comp_def]

theorem at?_map_node (o : Occurrence) (p : Position) :
    (o.at? p).map (·.node) = o.node.at? p := by
  induction p generalizing o with
  | nil => simp
  | cons i p ih =>
      rw [at?_cons, Node.at?_cons, getElem?_children]
      cases child : o.node.children[i]? with
      | none => rfl
      | some n =>
          simp only [Option.map_some, Option.bind_some]
          exact ih ⟨n, o.node :: o.ancestors⟩

/-! ## The walk -/

theorem walk_append (xs ys : List Occurrence) : walk (xs ++ ys) = walk xs ++ walk ys := by
  fun_induction walk xs with
  | case1 => rfl
  | case2 o rest ih =>
      rw [List.cons_append, walk, ← List.append_assoc, ih]
      rfl

theorem walk_cons (o : Occurrence) (rest : List Occurrence) :
    walk (o :: rest) = o :: (walk o.children ++ walk rest) := by
  rw [walk, walk_append]

/-- The walk passes the nodes of its trees in pre-order. -/
theorem walk_map_node (stack : List Occurrence) :
    (walk stack).map (·.node) = Node.preorderAll (stack.map (·.node)) := by
  fun_induction walk stack with
  | case1 => rw [List.map_nil, Node.preorderAll]
  | case2 o rest ih =>
      rw [List.map_cons, ih, List.map_append, map_node_children, Node.preorderAll_append,
        List.map_cons, Node.preorderAll, Node.preorder_eq, List.cons_append]

mutual
/-- The walk below an occurrence passes what is at each position, in the order of positions. -/
theorem walk_singleton (o : Occurrence) :
    (walk [o]).map some = o.node.positions.map o.at? := by
  cases o with
  | mk node ancestors =>
      cases node with
      | mk kind named field start stop point children =>
          rw [walk_cons, Node.positions, walk, List.append_nil, List.map_cons, List.map_cons]
          exact congrArg _ (walk_siblings ⟨⟨kind, named, field, start, stop, point, children⟩,
            ancestors⟩ [] children rfl)
termination_by sizeOf o.node

theorem walk_siblings (o : Occurrence) (before ns : List Node)
    (split : o.node.children = before ++ ns) :
    (walk (ns.map (⟨·, o.node :: o.ancestors⟩))).map some =
      (Node.positionsFrom before.length ns).map o.at? := by
  cases ns with
  | nil => rw [List.map_nil, walk, Node.positionsFrom, List.map_nil, List.map_nil]
  | cons n rest =>
      have first : o.children[before.length]? = some ⟨n, o.node :: o.ancestors⟩ := by
        simp [getElem?_children, split]
      have later := walk_siblings o (before ++ [n]) rest (by simp [split])
      rw [List.length_append] at later
      rw [List.map_cons, ← List.singleton_append, walk_append, List.map_append,
        walk_singleton ⟨n, o.node :: o.ancestors⟩, later, Node.positionsFrom, List.map_append,
        List.map_map]
      simp [Function.comp_def, first]
termination_by sizeOf ns
end

/-- Going through what is below an occurrence is going through its positions. -/
theorem walk_filterMap {α : Type} (o : Occurrence) (f : Occurrence → Option α) :
    (walk [o]).filterMap f = o.node.positions.filterMap fun p => (o.at? p).bind f := by
  have listed : ((walk [o]).map some).filterMap (·.bind f) =
      (o.node.positions.map o.at?).filterMap (·.bind f) := by
    rw [walk_singleton]
  rw [List.filterMap_map, List.filterMap_map] at listed
  exact listed

end Occurrence

namespace Node

theorem descendants_eq (n : Node) : n.descendants = n.preorder := by
  rw [descendants, occurrences, Occurrence.walk_map_node]
  simp [occurrence, preorderAll]

theorem occurrenceAt?_map_node (tree : Node) (p : Position) :
    (tree.occurrenceAt? p).map (·.node) = tree.at? p :=
  tree.occurrence.at?_map_node p

theorem at?_of_occurrenceAt? {tree : Node} {p : Position} {o : Occurrence}
    (reached : tree.occurrenceAt? p = some o) : tree.at? p = some o.node := by
  rw [← occurrenceAt?_map_node, reached, Option.map_some]

theorem exists_occurrenceAt? {tree n : Node} {p : Position} (found : tree.at? p = some n) :
    ∃ o, tree.occurrenceAt? p = some o ∧ o.node = n := by
  rw [← occurrenceAt?_map_node, Option.map_eq_some_iff] at found
  exact found

/-- Going on from what was reached is going on in the tree. -/
theorem occurrenceAt?_append {tree : Node} {p : Position} {o : Occurrence}
    (reached : tree.occurrenceAt? p = some o) (q : Position) :
    tree.occurrenceAt? (p ++ q) = o.at? q := by
  have start : tree.occurrence.at? p = some o := reached
  calc
    tree.occurrence.at? (p ++ q) = (tree.occurrence.at? p).bind (·.at? q) := by
      rw [Occurrence.at?_append]
    _ = o.at? q := by rw [start, Option.bind_some]

theorem occurrenceAt?_concat (tree : Node) (p : Position) (i : Nat) :
    tree.occurrenceAt? (p ++ [i]) = (tree.occurrenceAt? p).bind (·.children[i]?) :=
  tree.occurrence.at?_concat p i

/-- Going through the occurrences of a tree is going through its positions. -/
theorem occurrences_filterMap {α : Type} (tree : Node) (f : Occurrence → Option α) :
    tree.occurrences.filterMap f =
      tree.positions.filterMap fun p => (tree.occurrenceAt? p).bind f :=
  tree.occurrence.walk_filterMap f

/-! ## What is above -/

/-- `d` is the nearest node strictly above a position that is of one of these kinds. What is above
    a position is at its prefixes, and a longer prefix is nearer. -/
def Nearest (tree : Node) (kinds : List String) (p : Position) (d : Node) : Prop :=
  ∃ depth < p.length, tree.at? (p.take depth) = some d ∧ d.kind ∈ kinds ∧
    ∀ deeper < p.length, depth < deeper → ∀ n, tree.at? (p.take deeper) = some n → n.kind ∉ kinds

theorem not_nearest_nil (tree : Node) (kinds : List String) (d : Node) :
    ¬ tree.Nearest kinds [] d := by
  rintro ⟨depth, inside, _⟩
  exact Nat.not_lt_zero depth inside

/-- The nearest node above a child is its parent, or else the nearest one above that. -/
theorem nearest_concat {tree parent : Node} {p : Position} (found : tree.at? p = some parent)
    (kinds : List String) (i : Nat) (d : Node) :
    tree.Nearest kinds (p ++ [i]) d ↔
      (parent.kind ∈ kinds ∧ d = parent) ∨ (parent.kind ∉ kinds ∧ tree.Nearest kinds p d) := by
  have prefixOf : ∀ depth ≤ p.length, (p ++ [i]).take depth = p.take depth := by
    intro depth short
    rw [List.take_append_of_le_length short]
  have whole : (p ++ [i]).take p.length = p := by
    rw [prefixOf p.length (Nat.le_refl _), List.take_length]
  have longer : (p ++ [i]).length = p.length + 1 := by simp
  constructor
  · rintro ⟨depth, inside, above, wanted, nearest⟩
    rw [longer] at inside nearest
    rcases Nat.lt_succ_iff_lt_or_eq.mp inside with inside | rfl
    · have skipped : parent.kind ∉ kinds :=
        nearest p.length (Nat.lt_succ_self _) inside parent (by rw [whole, found])
      refine .inr ⟨skipped, depth, inside, ?_, wanted, ?_⟩
      · rw [← prefixOf depth (Nat.le_of_lt inside), above]
      · intro deeper deeperInside between n reached
        exact nearest deeper (by omega) between n
          (by rw [prefixOf deeper (Nat.le_of_lt deeperInside), reached])
    · rw [whole, found] at above
      cases above
      exact .inl ⟨wanted, rfl⟩
  · rintro (⟨wanted, rfl⟩ | ⟨skipped, depth, inside, above, wanted, nearest⟩)
    · refine ⟨p.length, by omega, by rw [whole, found], wanted, ?_⟩
      intro deeper deeperInside between
      omega
    · refine ⟨depth, by omega, by rw [prefixOf depth (Nat.le_of_lt inside), above], wanted, ?_⟩
      intro deeper deeperInside between n reached
      rcases Nat.lt_succ_iff_lt_or_eq.mp (longer ▸ deeperInside) with deeperInside | rfl
      · rw [prefixOf deeper (Nat.le_of_lt deeperInside)] at reached
        exact nearest deeper deeperInside between n reached
      · rw [whole, found] at reached
        cases reached
        exact skipped

/-- What is at a child's position knows its parent and what is above that. -/
theorem exists_parent {tree : Node} {p : Position} {i : Nat} {o : Occurrence}
    (reached : tree.occurrenceAt? (p ++ [i]) = some o) :
    ∃ parent, tree.occurrenceAt? p = some parent ∧ tree.at? p = some parent.node ∧
      o.ancestors = parent.node :: parent.ancestors := by
  rw [occurrenceAt?_concat, Option.bind_eq_some_iff] at reached
  obtain ⟨parent, above, child⟩ := reached
  rw [Occurrence.getElem?_children, Option.map_eq_some_iff] at child
  obtain ⟨_, _, rfl⟩ := child
  exact ⟨parent, above, at?_of_occurrenceAt? above, rfl⟩

/-- Looking upward from an occurrence finds the nearest node above its position. -/
theorem enclosing?_eq_some_iff {tree : Node} {p : Position} {o : Occurrence}
    (reached : tree.occurrenceAt? p = some o) (kinds : List String) (d : Node) :
    o.enclosing? kinds = some d ↔ tree.Nearest kinds p d := by
  induction p using List.reverseRecOn generalizing o with
  | nil =>
      cases reached
      simp [Occurrence.enclosing?, occurrence, not_nearest_nil]
  | append_singleton p i ih =>
      obtain ⟨parent, above, found, ancestors⟩ := exists_parent reached
      rw [nearest_concat found, ← ih above]
      by_cases wanted : parent.node.kind ∈ kinds
      · simp [Occurrence.enclosing?, ancestors, wanted, eq_comm]
      · simp [Occurrence.enclosing?, ancestors, wanted]

/-- The nodes above an occurrence are those at the shorter prefixes of its position. -/
theorem mem_ancestors_iff {tree : Node} {p : Position} {o : Occurrence}
    (reached : tree.occurrenceAt? p = some o) (n : Node) :
    n ∈ o.ancestors ↔ ∃ depth < p.length, tree.at? (p.take depth) = some n := by
  induction p using List.reverseRecOn generalizing o with
  | nil =>
      cases reached
      simp [occurrence]
  | append_singleton p i ih =>
      obtain ⟨parent, above, found, ancestors⟩ := exists_parent reached
      have whole : (p ++ [i]).take p.length = p := by simp
      have shorter : (∃ depth < p.length, tree.at? ((p ++ [i]).take depth) = some n) ↔
          ∃ depth < p.length, tree.at? (p.take depth) = some n := by
        refine exists_congr fun depth => and_congr_right fun inside => ?_
        rw [List.take_append_of_le_length (Nat.le_of_lt inside)]
      rw [ancestors, List.mem_cons, ih above, List.length_append, List.length_singleton,
        Nat.exists_lt_succ_right, shorter, whole, found, Option.some_inj, or_comm,
        eq_comm (a := n)]

/-- Looking upward finds nothing just if nothing above is of these kinds. -/
theorem enclosing?_eq_none_iff {tree : Node} {p : Position} {o : Occurrence}
    (reached : tree.occurrenceAt? p = some o) (kinds : List String) :
    o.enclosing? kinds = none ↔
      ∀ depth < p.length, ∀ n, tree.at? (p.take depth) = some n → n.kind ∉ kinds := by
  simp only [Occurrence.enclosing?, List.find?_eq_none, mem_ancestors_iff reached,
    List.contains_iff_mem]
  constructor
  · intro nothing depth inside n found
    exact nothing n ⟨depth, inside, found⟩
  · rintro nothing n ⟨depth, inside, found⟩
    exact nothing depth inside n found

/-! ## Sources of one line -/

/-- A node of a source of one line. -/
def onLine (kind : String) (named : Bool) (field : Option String) (start stop : Nat)
    (children : List Node) : Node :=
  ⟨kind, named, field, start, stop, ⟨0, start⟩, children⟩

/-- The method `void M(){..}` at the beginning of a source. -/
def methodAround (stop : Nat) (body : List Node) : Node :=
  onLine "method_declaration" true none 0 stop
    [onLine "identifier" true (some "name") 5 6 [], onLine "block" true (some "body") 8 stop body]

/-- The call of a name of one letter. -/
def callOnLine (field : Option String) (start stop : Nat) (arguments : List Node) : Node :=
  onLine "invocation_expression" true field start stop
    [onLine "identifier" true (some "function") start (start + 1) [],
      onLine "argument_list" true (some "arguments") (start + 1) stop arguments]

end Node

end CallOrigin
