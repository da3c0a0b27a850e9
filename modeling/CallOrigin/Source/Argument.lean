import CallOrigin.Source.Literal

/-! # What an argument says

The value of an argument as far as the method around the call shows it: a literal is its value,
a variable is what the method first initialises it with, anything else is its own text. -/

namespace CallOrigin

inductive ArgumentValue where
  /-- There is no argument. -/
  | missing
  | literal (value : String)
  | expression (text : String)
  /-- A variable that the method does not initialise. -/
  | unresolved (name : String)
deriving Repr, DecidableEq

def ArgumentValue.text : ArgumentValue → String
  | missing => "No parameter"
  | literal value => value
  | expression text => text
  | unresolved name => "Unresolved variable: " ++ name

namespace Node

/-- The name of a declarator: its name field, else its first identifier. -/
def declaredName? (declarator : Node) : Option Node :=
  (declarator.child? "name").or (declarator.children.find? (·.kind == "identifier"))

/-- The first named node behind an equals sign. A clause that holds the sign and the expression
    together ends the search. -/
def initializerAmong (equals : Bool) : List Node → Option Node
  | [] => none
  | n :: rest =>
    if n.kind == "equals_value_clause" then n.namedChildren.getLast?
    else if n.kind == "=" then initializerAmong true rest
    else if equals && n.named then some n
    else initializerAmong equals rest

def initializer? (declarator : Node) : Option Node :=
  initializerAmong false declarator.children

/-- What a method first initialises the given variable with. -/
def localInitializer? (source : List UInt8) (method : Node) (variable_ : String) : Option Node :=
  method.descendants.findSome? fun n =>
    if n.kind == "variable_declarator"
        && n.declaredName?.any (fun name => name.text source == variable_)
    then n.initializer? else none

/-- The expression of an argument: its last named part, a name before a colon apart. A node of
    another kind is its own expression. -/
def argumentExpression? (argument : Node) : Option Node :=
  if argument.kind == "argument" then
    (argument.namedChildren.filter (·.kind != "name_colon")).getLast?
  else some argument

def resolve (source : List UInt8) (method expression : Node) : ArgumentValue :=
  if expression.literal?.isSome then .literal (expression.literalValue source)
  else if expression.kind == "identifier" then
    let variable_ := expression.text source
    match method.localInitializer? source variable_ with
    | none => .unresolved variable_
    | some e =>
      if e.literal?.isSome then .literal (e.literalValue source)
      else .expression (e.text source)
  else .expression (expression.text source)

end Node

end CallOrigin
