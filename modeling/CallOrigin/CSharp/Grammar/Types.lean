import CallOrigin.CSharp.Grammar.Category

/-! # Names and types of C# -/

namespace CallOrigin.CSharp.Grammar

/-- The types between angle brackets, or only commas where the types are left open. -/
def typeArguments : R :=
  .node "type_argument_list" (.seq ["<", commaListOrNone type, .many ",", ">"])

def genericName : R :=
  .node "generic_name" (.seq [.identifier, typeArguments])

def simpleName : R :=
  .choice [genericName, .identifier]

def aliasQualifiedName : R :=
  .node "alias_qualified_name" (.seq [.identifier, "::", .field "name" simpleName])

def name : R :=
  .chain (.choice [aliasQualifiedName, simpleName])
    [("qualified_name", "qualifier", .seq [".", .field "name" simpleName])]

def predefinedType : R :=
  .oneOf predefinedTypes "predefined_type"

def tupleType : R :=
  let element : R := .node "tuple_element" (.seq [.field "type" type, .optional named])
  .node "tuple_type" (inParens (.seq [element, some1 (.seq [",", element])]))

def functionPointerType : R :=
  .node "function_pointer_type"
    (.seq ["delegate", "*", .optional .identifier, .optional (inBrackets (commaList .identifier)),
      "<", commaList (.seq [.many (anyOf ["ref", "out", "in", "readonly"]), type]), ">"])

def typeHead : R :=
  .choice
    [.node "ref_type" (.seq ["ref", .optional "readonly", type]),
     predefinedType, tupleType, functionPointerType, name]

def arrayRank : R :=
  .node "array_rank_specifier" (inBrackets (.many ","))

def arraySuffix : String × String × R := ("array_type", "type", arrayRank)

def pointerSuffix : String × String × R := ("pointer_type", "type", "*")

def typeRule : R :=
  .chain typeHead [arraySuffix, ("nullable_type", "type", "?"), pointerSuffix]

/-- What can follow a type where an expression may go on after it. -/
def afterType : R :=
  .choice
    [anyOf [")", ";", ",", "]", "\x7d", "&&", "||", "?", "??", ":", "and", "or", "when", "=>", "==",
       "!=", "|", "&", "^", "=", "select", "where", "orderby", "group", "into", "join", "let",
       "on", "equals"],
     .token .holeEnd, .token .format, .finished]

/-- A type that an operator tests for: a question mark belongs to it only if no branch of a
    conditional can follow. -/
def testedType : R :=
  .chain typeHead [arraySuffix, ("nullable_type", "type", .seq ["?", .ahead afterType])]

end CallOrigin.CSharp.Grammar
