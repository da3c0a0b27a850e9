import CallOrigin.Calls.Method

/-! # The caller graph

Which methods call a name. A call does not tell which of several methods of one name it reaches,
so the callers are kept by name: a set of methods for each name that is called. Callers are added
until the graph is frozen. -/

namespace CallOrigin

/-- A name that is called, and a method that calls it. -/
structure Edge where
  callee : String
  caller : Method
deriving Repr, DecidableEq

/-- A set of methods. -/
structure MethodSet where
  methods : List Method
  unique : methods.Nodup
deriving Repr, DecidableEq

namespace MethodSet

def empty : MethodSet := ⟨[], .nil⟩

def insert (s : MethodSet) (m : Method) : MethodSet :=
  if present : m ∈ s.methods then s
  else ⟨m :: s.methods, List.nodup_cons.mpr ⟨present, s.unique⟩⟩

def size (s : MethodSet) : Nat := s.methods.length

end MethodSet

/-- Sets of methods by name. -/
structure CallerTable where
  rows : List (String × MethodSet)
  unique : (rows.map (·.1)).Nodup
deriving Repr, DecidableEq

namespace CallerTable

def empty : CallerTable := ⟨[], .nil⟩

/-- The set of a name, if there is one. Asking makes none. -/
def get? (t : CallerTable) (name : String) : Option MethodSet :=
  t.rows.lookup name

/-- The table in which a name has a set, an empty one if it had none. -/
def withDefault (t : CallerTable) (name : String) : CallerTable :=
  if present : name ∈ t.rows.map (·.1) then t
  else ⟨(name, .empty) :: t.rows, List.nodup_cons.mpr ⟨present, t.unique⟩⟩

def modifyRow (name : String) (change : MethodSet → MethodSet) (row : String × MethodSet) :
    String × MethodSet :=
  (row.1, if row.1 = name then change row.2 else row.2)

/-- Changes the set of a name that has one. -/
def modify (t : CallerTable) (name : String) (change : MethodSet → MethodSet) : CallerTable where
  rows := t.rows.map (modifyRow name change)
  unique := by
    rw [List.map_map]
    exact t.unique

/-- Adds a method to the set of a name, which is made where there is none. -/
def insert (t : CallerTable) (name : String) (m : Method) : CallerTable :=
  (t.withDefault name).modify name (·.insert m)

end CallerTable

/-- The calls found so far. -/
structure CallerGraph where
  callers : CallerTable
  frozen : Bool
deriving Repr, DecidableEq

structure FrozenError where
  edge : Edge
deriving Repr, DecidableEq

def FrozenError.message (e : FrozenError) : String :=
  "Cannot add edge " ++ e.edge.caller.text ++ " -> " ++ e.edge.callee ++ ": graph is frozen"

namespace CallerGraph

def empty : CallerGraph := ⟨.empty, false⟩

/-- Adds an edge, whether or not it is there; a frozen graph refuses it in either case. -/
def add (g : CallerGraph) (e : Edge) : Except FrozenError CallerGraph :=
  if g.frozen then .error ⟨e⟩
  else .ok { g with callers := g.callers.insert e.callee e.caller }

def addAll (g : CallerGraph) (es : List Edge) : Except FrozenError CallerGraph :=
  es.foldlM add g

def freeze (g : CallerGraph) : CallerGraph := { g with frozen := true }

def callersOf (g : CallerGraph) (callee : String) : List Method :=
  match g.callers.get? callee with
  | some s => s.methods
  | none => []

def contains (g : CallerGraph) (callee : String) : Bool :=
  (g.callers.get? callee).isSome

/-- The names that are called, in increasing order. -/
def calleeNames (g : CallerGraph) : List String :=
  (g.callers.rows.map (·.1)).mergeSort

def size (g : CallerGraph) : Nat := g.callers.rows.length

def edgeCount (g : CallerGraph) : Nat :=
  g.callers.rows.foldr (fun row count => row.2.size + count) 0

end CallerGraph

end CallOrigin
