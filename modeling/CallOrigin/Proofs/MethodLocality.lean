import CallOrigin.Proofs.Correspondence
import CallOrigin.Proofs.Extraction

/-! # Methods by themselves

What the calls of a method are taken for depends on the method alone: on its tree, with offsets
counted from its beginning, and on its own bytes. The rest of the file can be anything, and can move
the method to any place. A tree whose root is neither a method nor a call contributes what its
children contribute by themselves, one after the other.
-/

namespace CallOrigin

/-! ## Trees apart from their place -/

namespace Node

mutual
/-- A tree with its offsets counted from a base, and without its places. -/
def countedFrom (base : Nat) : Node → Node
  | ⟨kind, named, field, start, stop, _, children⟩ =>
    ⟨kind, named, field, start - base, stop - base, ⟨0, 0⟩, allCountedFrom base children⟩

def allCountedFrom (base : Nat) : List Node → List Node
  | [] => []
  | n :: rest => n.countedFrom base :: allCountedFrom base rest
end

/-- The bytes of a node. -/
def bytes (source : List UInt8) (n : Node) : List UInt8 :=
  (source.drop n.start).take (n.stop - n.start)

/-- That all ranges in a tree are inside the range from `first` to `last`. -/
def Within (first last : Nat) (n : Node) : Prop :=
  ∀ d ∈ n.preorder, first ≤ d.start ∧ d.stop ≤ last

theorem Within.range {first last : Nat} {n : Node} (within : n.Within first last) :
    first ≤ n.start ∧ n.stop ≤ last := by
  apply within
  rw [preorder_eq]
  exact List.mem_cons_self

/-- A range inside of another is cut from the bytes of that. -/
theorem take_drop_within (source : List UInt8) {first last start stop : Nat} (low : first ≤ start)
    (high : stop ≤ last) :
    (source.drop start).take (stop - start) =
      (((source.drop first).take (last - first)).drop (start - first)).take
        ((stop - first) - (start - first)) := by
  rw [List.drop_take, List.take_take, List.drop_drop]
  congr 1
  · omega
  · congr 1
    omega

section
variable {s s' : List UInt8} {first last first' last' : Nat}

mutual
/-- Trees that are the same but for where they begin read alike if their bytes are the same. -/
theorem alike_of_countedFrom
    (same : (s.drop first).take (last - first) = (s'.drop first').take (last' - first'))
    (n n' : Node) (moved : n.countedFrom first = n'.countedFrom first')
    (within : n.Within first last) (within' : n'.Within first' last') : Alike s s' n n' := by
  have range := within.range
  have range' := within'.range
  cases n with
  | mk kind named field start stop point children =>
      cases n' with
      | mk kind' named' field' start' stop' point' children' =>
          rw [countedFrom, countedFrom, Node.mk.injEq] at moved
          obtain ⟨kinds, nameds, fields, starts, stops, _, below⟩ := moved
          refine .intro kinds nameds fields ?_ ?_
          · rw [text, text, take_drop_within s range.1 range.2,
              take_drop_within s' range'.1 range'.2, same]
            rw [starts, stops]
          · rw [Within, preorder, List.forall_mem_cons] at within within'
            exact forall₂_alike_of_countedFrom same children children' below within.2 within'.2
termination_by sizeOf n

theorem forall₂_alike_of_countedFrom
    (same : (s.drop first).take (last - first) = (s'.drop first').take (last' - first'))
    (ns ns' : List Node) (moved : allCountedFrom first ns = allCountedFrom first' ns')
    (within : ∀ d ∈ preorderAll ns, first ≤ d.start ∧ d.stop ≤ last)
    (within' : ∀ d ∈ preorderAll ns', first' ≤ d.start ∧ d.stop ≤ last') :
    List.Forall₂ (Alike s s') ns ns' := by
  cases ns with
  | nil =>
      cases ns' with
      | nil => exact .nil
      | cons => simp [allCountedFrom] at moved
  | cons n ns =>
      cases ns' with
      | nil => simp [allCountedFrom] at moved
      | cons n' ns' =>
          rw [allCountedFrom, allCountedFrom, List.cons.injEq] at moved
          rw [preorderAll, List.forall_mem_append] at within within'
          exact .cons (alike_of_countedFrom same n n' moved.1 within.1 within'.1)
            (forall₂_alike_of_countedFrom same ns ns' moved.2 within.2 within'.2)
termination_by sizeOf ns
end

end

/-! ## Positions below a position -/

theorem filter_positionsFrom (p : Position) : ∀ (ns : List Node) (i j : Nat),
    (positionsFrom i ns).filter (((i + j) :: p).isPrefixOf ·) =
      (ns[j]?.toList.flatMap fun n => n.positions.filter (p.isPrefixOf ·)).map ((i + j) :: ·) := by
  intro ns
  induction ns with
  | nil => simp [positionsFrom]
  | cons n rest ih =>
      intro i j
      rw [positionsFrom, List.filter_append, List.filter_map]
      cases j with
      | zero =>
          have later : (positionsFrom (i + 1) rest).filter (((i + 0) :: p).isPrefixOf ·) = [] := by
            rw [List.filter_eq_nil_iff]
            intro q inside
            obtain ⟨k, rest, _, rfl, _⟩ := (mem_positionsFrom ..).mp inside
            have apart : i ≠ i + 1 + k := by omega
            simp [apart]
          rw [later]
          simp [Function.comp_def]
      | succ j =>
          have other : n.positions.filter
              ((fun q => ((i + (j + 1)) :: p).isPrefixOf q) ∘ (i :: ·)) = [] := by
            rw [List.filter_eq_nil_iff]
            intro q _
            simp
          have order : i + (j + 1) = i + 1 + j := by omega
          rw [other, order, ih (i + 1) j]
          simp

/-- The positions below a position are those of the tree that is there. -/
theorem filter_positions {tree m : Node} {p : Position} (found : tree.at? p = some m) :
    tree.positions.filter (p.isPrefixOf ·) = m.positions.map (p ++ ·) := by
  induction p generalizing tree with
  | nil =>
      cases found
      simp
  | cons i p ih =>
      rw [at?_cons, Option.bind_eq_some_iff] at found
      obtain ⟨child, inside, found⟩ := found
      cases tree with
      | mk kind named field start stop point children =>
          have below := filter_positionsFrom p children 0 i
          rw [Nat.zero_add] at below
          have inside : children[i]? = some child := inside
          rw [positions, List.filter_cons_of_neg (by simp), below, inside]
          simp [ih found]

end Node

/-! ## Calls below a position -/

namespace NamedCall

variable {source : List UInt8} {tree : Node} {p : Position} {o : Occurrence}

/-- The calls that are found below a position are those of the walk that begins there. -/
theorem sites_below (reached : tree.occurrenceAt? p = some o) :
    ((sites source tree).filter (p.isPrefixOf ·.1)).map (·.2) =
      (Occurrence.walk [o]).filterMap (ofOccurrence? source) := by
  have found : tree.at? p = some o.node := Node.at?_of_occurrenceAt? reached
  have below : (sites source tree).filter (p.isPrefixOf ·.1) =
      (tree.positions.filter (p.isPrefixOf ·)).filterMap fun q =>
        (at? source tree q).map (q, ·) := by
    rw [sites, List.filter_filterMap, List.filterMap_filter]
    refine List.filterMap_congr ?_
    intro q _
    cases at? source tree q with
    | none => simp
    | some c => simp [Option.filter]
  rw [below, Node.filter_positions found, List.filterMap_map, List.map_filterMap,
    Occurrence.walk_filterMap]
  refine List.filterMap_congr ?_
  intro q _
  simp only [Function.comp_def, Option.map_map, Option.map_id', at?,
    Node.occurrenceAt?_append reached]

end NamedCall

/-- The part of what a tree contributes that comes from the calls at a position and below. -/
def extractBelow (apis : List String) (file : String) (source : List UInt8) (tree : Node)
    (p : Position) : Extraction :=
  ⟨((NamedCall.sites source tree).filter (p.isPrefixOf ·.1)).map (·.2.edge file),
    ((apiSites apis source tree).filter (p.isPrefixOf ·.1)).map (·.2.apiCall source file)⟩

/-- Below the root is everything. -/
theorem extractBelow_root (apis : List String) (file : String) (source : List UInt8) (tree : Node) :
    extractBelow apis file source tree [] = extract apis file source tree := by
  simp [extractBelow, extract, apiSites, NamedCall.all_eq, List.filter_map, Function.comp_def]

theorem extractBelow_sublist (apis : List String) (file : String) (source : List UInt8)
    (tree : Node) (p : Position) :
    (extractBelow apis file source tree p).edges.Sublist (extract apis file source tree).edges ∧
      (extractBelow apis file source tree p).calls.Sublist
        (extract apis file source tree).calls := by
  have edges : (extract apis file source tree).edges =
      (NamedCall.sites source tree).map (·.2.edge file) := by
    simp [extract, NamedCall.all_eq, Function.comp_def]
  rw [edges, extract_calls]
  exact ⟨List.filter_sublist.map _, List.filter_sublist.map _⟩

/-! ## Two files with one method -/

/-- What is said of a call of the API, its place apart. -/
def ApiCall.said (c : ApiCall) : String × String × Method := (c.api, c.endpoint, c.caller)

section
variable {s s' : List UInt8} {c c' : NamedCall}

theorem NamedCall.Alike.said (alike : NamedCall.Alike s s' c c') (file : String) :
    (c.apiCall s file).said = (c'.apiCall s' file).said := by
  simp only [ApiCall.said, NamedCall.apiCall, alike.callee, alike.methodName,
    alike.method.firstArgument alike.call]

end

theorem extractBelow_eq {source : List UInt8} {tree : Node} {p : Position} {o : Occurrence}
    (reached : tree.occurrenceAt? p = some o) (apis : List String) (file : String) :
    extractBelow apis file source tree p =
      ⟨((Occurrence.walk [o]).filterMap (NamedCall.ofOccurrence? source)).map (·.edge file),
        (((Occurrence.walk [o]).filterMap (NamedCall.ofOccurrence? source)).filter
          (apis.contains ·.callee)).map (·.apiCall source file)⟩ := by
  rw [← NamedCall.sites_below reached, extractBelow, apiSites, List.filter_filter, List.map_map,
    List.filter_map, List.filter_filter, List.map_map]
  simp only [Function.comp_def, Bool.and_comm]

/-- The same method contributes the same in any two files. -/
theorem extractBelow_of_same {s s' : List UInt8} {tree tree' m m' : Node} {p p' : Position}
    (found : tree.at? p = some m) (found' : tree'.at? p' = some m')
    (method : m.kind = "method_declaration")
    (alike : Node.Alike s s' m m') (apis : List String) (file : String) :
    (extractBelow apis file s tree p).edges = (extractBelow apis file s' tree' p').edges ∧
      (extractBelow apis file s tree p).calls.map ApiCall.said =
        (extractBelow apis file s' tree' p').calls.map ApiCall.said := by
  obtain ⟨o, reached, rfl⟩ := Node.exists_occurrenceAt? found
  obtain ⟨o', reached', rfl⟩ := Node.exists_occurrenceAt? found'
  have start : Occurrence.Related (Node.Alike s s') o o' := ⟨alike, .inl method⟩
  have calls : List.Forall₂ (NamedCall.Alike s s')
      ((Occurrence.walk [o]).filterMap (NamedCall.ofOccurrence? s))
      ((Occurrence.walk [o']).filterMap (NamedCall.ofOccurrence? s')) :=
    List.rel_filterMap (fun _ _ related => NamedCall.alike_ofOccurrence? related)
      (Occurrence.related_walk Node.Alike.congruent (.cons start .nil))
  rw [extractBelow_eq reached, extractBelow_eq reached']
  constructor
  · rw [← List.forall₂_eq_eq_eq, List.forall₂_map_left_iff, List.forall₂_map_right_iff]
    exact calls.imp fun _ _ alike => alike.edge file
  · have wanted := rel_filter (p := fun c => apis.contains c.callee)
      (q := fun c => apis.contains c.callee) (fun _ _ alike => by rw [alike.callee]) calls
    rw [List.map_map, List.map_map, ← List.forall₂_eq_eq_eq, List.forall₂_map_left_iff,
      List.forall₂_map_right_iff]
    exact wanted.imp fun _ _ alike => alike.said file

/-! ## Trees made of parts -/

theorem congruent_eq : Congruent Eq fun _ => False where
  kind := by
    rintro n _ rfl
    rfl
  children := by
    rintro n _ rfl
    refine .of_forall₂ ?_
    rw [List.forall₂_eq_eq_eq]
  leaf := False.elim

namespace NamedCall

variable {source : List UInt8}

theorem ofOccurrence?_congr (source : List UInt8) {o o' : Occurrence}
    (related : Occurrence.Related Eq o o') :
    ofOccurrence? source o = ofOccurrence? source o' := by
  obtain ⟨node, around⟩ := related
  unfold ofOccurrence?
  rw [node]
  split
  next invocation =>
    have method : o.method? = o'.method? := by
      refine rel_eq_iff.mp (around.resolve_left ?_)
      rw [node, beq_iff_eq.mp invocation]
      decide
    rw [Occurrence.method?, Occurrence.method?] at method
    rw [method]
  next => rfl

/-- What is above a tree makes no difference to its calls if it holds no method. -/
theorem all_eq_of_no_method {n : Node} {above : List Node}
    (outside : Occurrence.method? ⟨n, above⟩ = none) :
    (Occurrence.walk [⟨n, above⟩]).filterMap (ofOccurrence? source) = all source n := by
  have start : Occurrence.Related Eq ⟨n, above⟩ n.occurrence := by
    refine ⟨rfl, .inr ?_⟩
    rw [outside]
    exact .none
  have walks := Occurrence.related_walk congruent_eq (.cons start .nil)
  have calls := List.rel_filterMap (P := Eq)
    (fun _ _ related => rel_eq_iff.mpr (ofOccurrence?_congr source related)) walks
  rw [List.forall₂_eq_eq_eq] at calls
  exact calls

theorem filterMap_walk_siblings (f : Occurrence → Option NamedCall) (stack : List Occurrence) :
    (Occurrence.walk stack).filterMap f =
      stack.flatMap fun o => (Occurrence.walk [o]).filterMap f := by
  induction stack with
  | nil => simp [Occurrence.walk]
  | cons o rest ih =>
      rw [← List.singleton_append, Occurrence.walk_append, List.filterMap_append, ih]
      simp

theorem all_eq_flatMap_children {tree : Node} (noMethod : tree.kind ≠ "method_declaration")
    (noCall : tree.kind ≠ "invocation_expression") :
    all source tree = tree.children.flatMap (all source) := by
  have root : ofOccurrence? source tree.occurrence = none := by
    simp [ofOccurrence?, Node.occurrence, noCall]
  have outside : ∀ n, Occurrence.method? ⟨n, [tree]⟩ = none := by
    intro n
    simp [Occurrence.method?, Occurrence.enclosing?, noMethod]
  have nothing : Occurrence.walk [] = [] := by rw [Occurrence.walk]
  rw [all, Node.occurrences, Occurrence.walk_cons, nothing, List.append_nil,
    List.filterMap_cons_none root, filterMap_walk_siblings, Occurrence.children, List.flatMap_map]
  simp only [Node.occurrence, all_eq_of_no_method (outside _)]

end NamedCall

theorem extract_eq_children {tree : Node} (noMethod : tree.kind ≠ "method_declaration")
    (noCall : tree.kind ≠ "invocation_expression") (apis : List String) (file : String)
    (source : List UInt8) :
    extract apis file source tree =
      ⟨tree.children.flatMap fun n => (extract apis file source n).edges,
        tree.children.flatMap fun n => (extract apis file source n).calls⟩ := by
  simp only [extract, NamedCall.all_eq_flatMap_children noMethod noCall, List.map_flatMap,
    List.filter_flatMap]

/-- What a method contributes is its own: wherever the method stands in two trees, whatever is
    around it there, its calls are recorded with the same names, arguments and callers, and give the
    same edges. What is outside of methods and calls only puts parts together. The calls below a
    position are part of what the tree contributes, and those below the root are all of it. -/
theorem extract_local (apis : List String) (file : String) :
    (∀ (s s' : List UInt8) (tree tree' m m' : Node) (p p' : Position),
      tree.at? p = some m → tree'.at? p' = some m' → m.kind = "method_declaration" →
      m.countedFrom m.start = m'.countedFrom m'.start → m.bytes s = m'.bytes s' →
      m.Within m.start m.stop → m'.Within m'.start m'.stop →
      (extractBelow apis file s tree p).edges = (extractBelow apis file s' tree' p').edges ∧
        (extractBelow apis file s tree p).calls.map ApiCall.said =
          (extractBelow apis file s' tree' p').calls.map ApiCall.said) ∧
    (∀ (source : List UInt8) (tree : Node), tree.kind ≠ "method_declaration" →
      tree.kind ≠ "invocation_expression" →
      extract apis file source tree =
        ⟨tree.children.flatMap fun n => (extract apis file source n).edges,
          tree.children.flatMap fun n => (extract apis file source n).calls⟩) ∧
    ∀ (source : List UInt8) (tree : Node),
      extractBelow apis file source tree [] = extract apis file source tree ∧
      ∀ p, (extractBelow apis file source tree p).edges.Sublist
          (extract apis file source tree).edges ∧
        (extractBelow apis file source tree p).calls.Sublist
          (extract apis file source tree).calls := by
  refine ⟨?_, fun source tree noMethod noCall =>
    extract_eq_children noMethod noCall apis file source, fun source tree =>
    ⟨extractBelow_root apis file source tree, extractBelow_sublist apis file source tree⟩⟩
  intro s s' tree tree' m m' p p' found found' method moved bytes within within'
  have alike : Node.Alike s s' m m' :=
    Node.alike_of_countedFrom bytes m m' moved within within'
  exact extractBelow_of_same found found' method alike apis file

/-- The tree of `void M(){A(u);}` at an offset. -/
private def callWithVariable (offset : Nat) : Node :=
  .onLine "method_declaration" true none offset (offset + 15)
    [.onLine "identifier" true (some "name") (offset + 5) (offset + 6) [],
      .onLine "block" true (some "body") (offset + 8) (offset + 15)
        [.callOnLine none (offset + 9) (offset + 13)
          [.onLine "argument" true none (offset + 11) (offset + 12)
            [.onLine "identifier" true none (offset + 11) (offset + 12) []]]]]

/-- Another method in front, with a variable of the same name. -/
private def behindOtherMethod : Node :=
  .onLine "compilation_unit" true none 0 33
    [.methodAround 18
        [.onLine "variable_declarator" true none 13 16
          [.onLine "identifier" true (some "name") 13 14 [], .onLine "=" false none 14 15 [],
            .onLine "integer_literal" true none 15 16 []]],
      callWithVariable 18]

/-- The variable of another method does not show in the call. -/
theorem extract_local_variable :
    (callWithVariable 0).countedFrom 0 = (callWithVariable 18).countedFrom 18 ∧
    (extractBelow ["A"] "m.cs" (Utf8.encode "void M(){A(u);}") (callWithVariable 0) []).edges =
      [⟨"A", ⟨"M", "m.cs"⟩⟩] ∧
    (extractBelow ["A"] "m.cs" (Utf8.encode "void N(){var u=1;}void M(){A(u);}")
      behindOtherMethod [1]).edges = [⟨"A", ⟨"M", "m.cs"⟩⟩] ∧
    (extractBelow ["A"] "m.cs" (Utf8.encode "void M(){A(u);}") (callWithVariable 0) []).calls.map
        ApiCall.said =
      (extractBelow ["A"] "m.cs" (Utf8.encode "void N(){var u=1;}void M(){A(u);}")
        behindOtherMethod [1]).calls.map ApiCall.said := by
  have moved : (callWithVariable 0).countedFrom 0 = (callWithVariable 18).countedFrom 18 := rfl
  have within : (callWithVariable 0).Within 0 15 := by
    unfold Node.Within
    decide
  have within' : (callWithVariable 18).Within 18 33 := by
    unfold Node.Within
    decide
  have one : (extractBelow ["A"] "m.cs" (Utf8.encode "void M(){A(u);}") (callWithVariable 0)
      []).edges = [⟨"A", ⟨"M", "m.cs"⟩⟩] := rfl
  obtain ⟨edges, calls⟩ := (extract_local ["A"] "m.cs").1 (Utf8.encode "void M(){A(u);}")
    (Utf8.encode "void N(){var u=1;}void M(){A(u);}") (callWithVariable 0) behindOtherMethod
    (callWithVariable 0) (callWithVariable 18) [] [1] rfl rfl rfl moved (by decide) within within'
  exact ⟨moved, one, edges.symm.trans one, calls⟩

end CallOrigin
