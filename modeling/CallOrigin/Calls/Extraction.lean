import CallOrigin.Calls.ApiCall
import CallOrigin.Calls.Graph
import CallOrigin.Source.Argument

/-! # Calls in a tree

Every call that has a simple name and stands inside of a method is an edge; if the name is of the
API, it is a call of the API as well. -/

namespace CallOrigin

namespace Node

/-- The node of a called expression that has the name: the last member access or binding inside
    of a conditional access, else the expression itself. -/
def calledMember? (target : Node) : Option Node :=
  if target.kind == "conditional_access_expression" then
    target.namedChildren.reverse.find? fun n =>
      n.kind == "member_binding_expression" || n.kind == "member_access_expression"
  else some target

/-- The name that a call gives, type arguments apart. A call of any other expression gives none. -/
def calledName? (source : List UInt8) (call : Node) : Option String := do
  let target ← call.child? "function"
  let member ← target.calledMember?
  let name ←
    if member.kind == "member_access_expression" || member.kind == "member_binding_expression" then
      member.child? "name"
    else if member.kind == "identifier" || member.kind == "generic_name" then some member
    else none
  let text := name.simpleName source
  if text.isEmpty then none else some text

/-- What is known of the first argument of a call in a method. -/
def firstArgument (source : List UInt8) (method call : Node) : ArgumentValue :=
  let expression := do
    let arguments ← call.child? "arguments"
    let first ← arguments.namedChildren.find? (·.kind == "argument")
    first.argumentExpression?
  match expression with
  | some e => method.resolve source e
  | none => .missing

end Node

/-- A call with a name inside of a method with a name. -/
structure NamedCall where
  callee : String
  call : Node
  method : Node
  methodName : String

namespace NamedCall

/-- The call at a place of a tree, if it is one with a name inside of a method with a name. -/
def ofOccurrence? (source : List UInt8) (o : Occurrence) : Option NamedCall :=
  if o.node.kind == "invocation_expression" then do
    let callee ← o.node.calledName? source
    let method ← o.enclosing? ["method_declaration"]
    let name ← method.child? "name"
    some ⟨callee, o.node, method, name.text source⟩
  else none

/-- The calls of a tree, an outer call before those inside of it. -/
def all (source : List UInt8) (tree : Node) : List NamedCall :=
  tree.occurrences.filterMap (ofOccurrence? source)

def edge (file : String) (c : NamedCall) : Edge :=
  ⟨c.callee, ⟨c.methodName, file⟩⟩

def apiCall (source : List UInt8) (file : String) (c : NamedCall) : ApiCall where
  file := file
  api := c.callee
  endpoint := (c.method.firstArgument source c.call).text
  caller := ⟨c.methodName, file⟩
  line := c.call.point.row
  col := c.call.point.col
  top := none
  control := none

end NamedCall

/-- What a source file contributes. -/
structure Extraction where
  edges : List Edge
  calls : List ApiCall
deriving Repr, DecidableEq

/-- The edges of a tree and its calls of the API, both in the order of the source. -/
def extract (apis : List String) (file : String) (source : List UInt8) (tree : Node) :
    Extraction :=
  let calls := NamedCall.all source tree
  ⟨calls.map (·.edge file),
    (calls.filter (apis.contains ·.callee)).map (·.apiCall source file)⟩

/-- Adds what a file contributes to a graph, and gives its calls of the API. -/
def CallerGraph.addExtraction (g : CallerGraph) (x : Extraction) :
    Except FrozenError (CallerGraph × List ApiCall) :=
  (g.addAll x.edges).map fun g => (g, x.calls)

end CallOrigin
