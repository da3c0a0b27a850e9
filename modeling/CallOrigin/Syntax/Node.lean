import CallOrigin.Text.Utf8

/-! # Syntax trees

A node has a kind, a byte range in the source and children; a child may be known to its
parent by a field name. Names of kinds and fields are those of the grammar that made the
tree. -/

namespace CallOrigin

/-- A place in a source text. -/
structure Point where
  /-- Line, from zero. -/
  row : Nat
  /-- Bytes before it on its line. -/
  col : Nat
deriving Repr, DecidableEq

/-- A node of a syntax tree. -/
structure Node where
  /-- What it is, such as `invocation_expression`, or its own text for a token such as `=`. -/
  kind : String
  /-- Tokens such as keywords and punctuation are unnamed. -/
  named : Bool
  /-- The part that it plays in its parent. -/
  field : Option String
  /-- Offset of its first byte. -/
  start : Nat
  /-- Offset after its last byte. -/
  stop : Nat
  point : Point
  children : List Node
deriving Repr

namespace Node

mutual

def size : Node → Nat
  | ⟨_, _, _, _, _, _, children⟩ => 1 + sizeAll children

def sizeAll : List Node → Nat
  | [] => 0
  | n :: rest => n.size + sizeAll rest

end

mutual

/-- The node, then what is below its children from left to right. -/
def preorder : Node → List Node
  | ⟨kind, named, field, start, stop, point, children⟩ =>
    ⟨kind, named, field, start, stop, point, children⟩ :: preorderAll children

def preorderAll : List Node → List Node
  | [] => []
  | n :: rest => n.preorder ++ preorderAll rest

end

def namedChildren (n : Node) : List Node :=
  n.children.filter (·.named)

/-- The first child, named or not, that plays the given part. -/
def child? (n : Node) (field : String) : Option Node :=
  n.children.find? (·.field == some field)

/-- The node reached by going down by these child positions. -/
def at? (n : Node) : List Nat → Option Node
  | [] => some n
  | i :: path => n.children[i]?.bind (at? · path)

/-- The text of a node: its byte range, cut to the source, read as UTF-8. -/
def text (source : List UInt8) (n : Node) : String :=
  Utf8.decode ((source.drop n.start).take (n.stop - n.start))

/-- The text of a name without its type arguments. -/
def simpleName (source : List UInt8) (n : Node) : String :=
  if n.kind == "generic_name" then
    match n.children.find? (·.kind == "identifier") with
    | some name => name.text source
    | none => n.text source
  else n.text source

theorem sizeAll_append (xs ys : List Node) :
    sizeAll (xs ++ ys) = sizeAll xs + sizeAll ys := by
  induction xs with
  | nil => simp [sizeAll]
  | cons n rest ih => simp [sizeAll, ih, Nat.add_assoc]

theorem size_eq (n : Node) : n.size = 1 + sizeAll n.children := by
  cases n; simp [size]

end Node

/-- A node together with the nodes above it, nearest first. -/
structure Occurrence where
  node : Node
  ancestors : List Node
deriving Repr

namespace Occurrence

def children (o : Occurrence) : List Occurrence :=
  o.node.children.map (⟨·, o.node :: o.ancestors⟩)

/-- The nodes that the trees of a stack still hold. -/
def pending (stack : List Occurrence) : Nat :=
  Node.sizeAll (stack.map (·.node))

/-- Takes the occurrences off a stack one by one; each leaves its children on top. -/
def walk (stack : List Occurrence) : List Occurrence :=
  match stack with
  | [] => []
  | o :: rest => o :: walk (o.children ++ rest)
termination_by pending stack
decreasing_by
  simp [pending, children, Node.sizeAll, Node.sizeAll_append, Node.size_eq, Function.comp_def]

/-- The nearest node above that is of one of these kinds. -/
def enclosing? (o : Occurrence) (kinds : List String) : Option Node :=
  o.ancestors.find? (kinds.contains ·.kind)

end Occurrence

namespace Node

/-- A tree's root as an occurrence with nothing above it. -/
def occurrence (n : Node) : Occurrence := ⟨n, []⟩

/-- All occurrences in a tree, the root first, in the order of the source. -/
def occurrences (n : Node) : List Occurrence :=
  Occurrence.walk [n.occurrence]

def descendants (n : Node) : List Node :=
  n.occurrences.map (·.node)

/-- The occurrence reached by going down by these child positions. -/
def occurrenceAt? (n : Node) (path : List Nat) : Option Occurrence :=
  path.foldlM (fun o i => o.children[i]?) n.occurrence

end Node

end CallOrigin
