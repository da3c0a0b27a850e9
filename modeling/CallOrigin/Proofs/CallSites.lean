import CallOrigin.Calls.Extraction
import CallOrigin.Proofs.Positions

/-! # Call sites

What it is for a call to have a name and to stand inside of a method, said of positions in a tree
and apart from the walk that looks for such calls. The walk finds exactly the call sites of a tree,
in the order of their positions.
-/

namespace CallOrigin

namespace Node

/-- A member access or binding, of which the name is a part. -/
def IsMember (n : Node) : Prop :=
  n.kind = "member_access_expression" ∨ n.kind = "member_binding_expression"

/-- `text` is a name without its type arguments. -/
inductive Stripped (source : List UInt8) (name : Node) : (text : String) → Prop where
  | generic {before identifier after} :
    name.kind = "generic_name" →
    name.children = before ++ identifier :: after →
    identifier.kind = "identifier" →
    (∀ n ∈ before, n.kind ≠ "identifier") →
    Stripped source name (identifier.text source)
  /-- A generic name that lacks an identifier is taken as it stands. -/
  | incomplete :
    name.kind = "generic_name" →
    (∀ n ∈ name.children, n.kind ≠ "identifier") →
    Stripped source name (name.text source)
  | plain : name.kind ≠ "generic_name" → Stripped source name (name.text source)

/-- `part` is what a called expression calls. -/
inductive CalledPart (target : Node) : (part : Node) → Prop where
  | itself : target.kind ≠ "conditional_access_expression" → CalledPart target target
  /-- The last member access or binding among the named children of a conditional access. -/
  | last {before part after} :
    target.kind = "conditional_access_expression" →
    target.namedChildren = before ++ part :: after →
    part.IsMember →
    (∀ n ∈ after, ¬ n.IsMember) →
    CalledPart target part

/-- `name` is the node of a called part that holds its name. -/
inductive NameOf (part : Node) : (name : Node) → Prop where
  | member {name} : part.IsMember → part.child? "name" = some name → NameOf part name
  | bare : part.kind = "identifier" ∨ part.kind = "generic_name" → NameOf part part

/-- `callee` is the name that a call gives. -/
def Names (source : List UInt8) (call : Node) (callee : String) : Prop :=
  ∃ target part name, call.child? "function" = some target ∧ target.CalledPart part ∧
    part.NameOf name ∧ name.Stripped source callee

theorem simpleName_eq_iff (source : List UInt8) (name : Node) (text : String) :
    name.simpleName source = text ↔ name.Stripped source text := by
  constructor
  · rintro rfl
    unfold simpleName
    split
    · rename_i generic
      split
      · rename_i identifier found
        obtain ⟨isIdentifier, before, after, split, earlier⟩ :=
          List.find?_eq_some_iff_append.mp found
        exact .generic (by simpa using generic) split (by simpa using isIdentifier)
          (by simpa using earlier)
      · rename_i missing
        exact .incomplete (by simpa using generic) (by simpa using missing)
    · rename_i other
      exact .plain (by simpa using other)
  · intro stripped
    cases stripped with
    | @generic before identifier after generic split isIdentifier earlier =>
        have found : name.children.find? (·.kind == "identifier") = some identifier :=
          List.find?_eq_some_iff_append.mpr
            ⟨by simpa using isIdentifier, before, after, split, by simpa using earlier⟩
        simp [simpleName, generic, found]
    | incomplete generic missing =>
        have found : name.children.find? (·.kind == "identifier") = none := by
          simpa using missing
        simp [simpleName, generic, found]
    | plain other => simp [simpleName, other]

theorem calledMember?_eq_some_iff (target part : Node) :
    target.calledMember? = some part ↔ target.CalledPart part := by
  unfold calledMember?
  by_cases conditional : target.kind = "conditional_access_expression"
  · rw [if_pos (by simpa using conditional), List.find?_eq_some_iff_append]
    constructor
    · rintro ⟨isMember, after, before, split, later⟩
      have forward : target.namedChildren = before.reverse ++ part :: after.reverse := by
        rw [← List.reverse_reverse target.namedChildren, split]
        simp
      refine .last conditional forward ?_ ?_
      · simpa [IsMember, or_comm] using isMember
      · intro n inside
        have other := later n (List.mem_reverse.mp inside)
        simpa [IsMember, and_comm] using other
    · intro called
      cases called with
      | itself other => exact absurd conditional other
      | @last before _ after _ split isMember later =>
          refine ⟨by simpa [IsMember, or_comm] using isMember, after.reverse, before.reverse,
            by simp [split], ?_⟩
          intro n inside
          have other := later n (List.mem_reverse.mp inside)
          simpa [IsMember, and_comm] using other
  · rw [if_neg (by simpa using conditional)]
    constructor
    · intro same
      cases same
      exact .itself conditional
    · intro called
      cases called with
      | itself => rfl
      | last other => exact absurd other conditional

/-- The node of a called part that holds its name. -/
def nameNode? (part : Node) : Option Node :=
  if part.kind == "member_access_expression" || part.kind == "member_binding_expression" then
    part.child? "name"
  else if part.kind == "identifier" || part.kind == "generic_name" then some part
  else none

/-- A called name is read off the called part's name, unless its text is empty. -/
theorem calledName?_eq (source : List UInt8) (call : Node) :
    call.calledName? source =
      (call.child? "function").bind fun target => target.calledMember?.bind fun part =>
        part.nameNode?.bind fun name =>
          if (name.simpleName source).isEmpty then none else some (name.simpleName source) := by
  rw [calledName?]
  refine congrArg _ (funext fun target => congrArg _ (funext fun part => ?_))
  rw [nameNode?]
  split
  · rfl
  · split <;> rfl

theorem nameNode?_eq_some_iff (part name : Node) :
    part.nameNode? = some name ↔ part.NameOf name := by
  unfold nameNode?
  by_cases isMember : part.IsMember
  · rw [if_pos (by simpa [IsMember] using isMember)]
    constructor
    · exact .member isMember
    · intro named
      cases named with
      | member _ found => exact found
      | bare kind =>
          exfalso
          rcases kind with kind | kind <;> simp [IsMember, kind] at isMember
  · rw [if_neg (by simpa [IsMember] using isMember)]
    constructor
    · intro found
      split at found
      · rename_i kind
        cases found
        exact .bare (by simpa using kind)
      · cases found
    · intro named
      cases named with
      | member other => exact absurd other isMember
      | bare kind => rw [if_pos (by simpa using kind)]

/-- A call gives exactly the name that it has by the rules, unless that is empty. -/
theorem calledName?_eq_some_iff (source : List UInt8) (call : Node) (callee : String) :
    call.calledName? source = some callee ↔ call.Names source callee ∧ callee ≠ "" := by
  simp only [calledName?_eq, Option.bind_eq_some_iff, calledMember?_eq_some_iff,
    nameNode?_eq_some_iff]
  constructor
  · rintro ⟨target, called, part, isPart, name, isName, stripped⟩
    split at stripped
    · cases stripped
    · rename_i visible
      have text : name.simpleName source = callee := Option.some.inj stripped
      refine ⟨⟨target, part, name, called, isPart, isName, (simpleName_eq_iff ..).mp text⟩, ?_⟩
      rintro rfl
      simp [text] at visible
  · rintro ⟨⟨target, part, name, called, isPart, isName, stripped⟩, visible⟩
    refine ⟨target, called, part, isPart, name, isName, ?_⟩
    rw [(simpleName_eq_iff ..).mpr stripped, if_neg (by simpa using visible)]

end Node

namespace NamedCall

/-- A call with a name at a position of a tree, inside of a method with a name. -/
structure At (source : List UInt8) (tree : Node) (p : Position) (c : NamedCall) : Prop where
  found : tree.at? p = some c.call
  invocation : c.call.kind = "invocation_expression"
  names : c.call.Names source c.callee
  visible : c.callee ≠ ""
  inside : tree.Nearest ["method_declaration"] p c.method
  named : ∃ name, c.method.child? "name" = some name ∧ name.text source = c.methodName

def at? (source : List UInt8) (tree : Node) (p : Position) : Option NamedCall :=
  (tree.occurrenceAt? p).bind (ofOccurrence? source)

/-- What is taken for a call at an occurrence is a call at its position, and every one is taken. -/
theorem ofOccurrence?_eq_some_iff {source : List UInt8} {tree : Node} {p : Position}
    {o : Occurrence} (reached : tree.occurrenceAt? p = some o) (c : NamedCall) :
    ofOccurrence? source o = some c ↔ c.At source tree p := by
  have found : tree.at? p = some o.node := Node.at?_of_occurrenceAt? reached
  unfold ofOccurrence?
  constructor
  · intro taken
    split at taken
    · rename_i invocation
      simp only [Option.bind_eq_bind, Option.bind_eq_some_iff, Node.calledName?_eq_some_iff,
        Node.enclosing?_eq_some_iff reached] at taken
      obtain ⟨callee, ⟨names, visible⟩, method, inside, name, named, same⟩ := taken
      cases same
      exact ⟨found, by simpa using invocation, names, visible, inside, name, named, rfl⟩
    · cases taken
  · rintro ⟨called, invocation, names, visible, inside, name, named, text⟩
    rw [found, Option.some.injEq] at called
    rw [called, if_pos (by simpa using invocation),
      (Node.calledName?_eq_some_iff ..).mpr ⟨names, visible⟩,
      (Node.enclosing?_eq_some_iff reached ..).mpr inside]
    simp [named, text]

theorem at?_eq_some_iff (source : List UInt8) (tree : Node) (p : Position) (c : NamedCall) :
    at? source tree p = some c ↔ c.At source tree p := by
  rw [at?, Option.bind_eq_some_iff]
  constructor
  · rintro ⟨o, reached, taken⟩
    exact (ofOccurrence?_eq_some_iff reached c).mp taken
  · intro site
    obtain ⟨o, reached, _⟩ := Node.exists_occurrenceAt? site.found
    exact ⟨o, reached, (ofOccurrence?_eq_some_iff reached c).mpr site⟩

/-- The calls of a tree with their positions. -/
def sites (source : List UInt8) (tree : Node) : List (Position × NamedCall) :=
  tree.positions.filterMap fun p => (at? source tree p).map (p, ·)

theorem all_eq (source : List UInt8) (tree : Node) :
    all source tree = (sites source tree).map (·.2) := by
  rw [all, Node.occurrences_filterMap, sites, List.map_filterMap]
  simp only [Option.map_map, Function.comp_def, Option.map_id']
  rfl

theorem mem_sites (source : List UInt8) (tree : Node) (p : Position) (c : NamedCall) :
    (p, c) ∈ sites source tree ↔ c.At source tree p := by
  simp only [sites, List.mem_filterMap, Option.map_eq_some_iff, Prod.mk.injEq]
  constructor
  · rintro ⟨_, _, _, taken, rfl, rfl⟩
    exact (at?_eq_some_iff ..).mp taken
  · intro site
    have inside : p ∈ tree.positions := by
      rw [Node.mem_positions, site.found]
      rfl
    exact ⟨p, inside, c, (at?_eq_some_iff ..).mpr site, rfl, rfl⟩

/-- The calls of a tree are found in pre-order, none of them twice. -/
theorem sites_sorted (source : List UInt8) (tree : Node) :
    (sites source tree).Pairwise (·.1 < ·.1) := by
  rw [sites, List.pairwise_filterMap]
  refine tree.positions_sorted.imp ?_
  intro p q before a first b second
  obtain ⟨_, _, rfl⟩ := Option.map_eq_some_iff.mp first
  obtain ⟨_, _, rfl⟩ := Option.map_eq_some_iff.mp second
  exact before

theorem mem_all (source : List UInt8) (tree : Node) (c : NamedCall) :
    c ∈ all source tree ↔ ∃ p, c.At source tree p := by
  simp only [all_eq, List.mem_map, Prod.exists, mem_sites, exists_eq_right]

end NamedCall

end CallOrigin
