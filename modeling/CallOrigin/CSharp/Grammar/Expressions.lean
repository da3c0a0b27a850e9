import CallOrigin.CSharp.Grammar.Types

/-! # Expressions of C# -/

namespace CallOrigin.CSharp.Grammar

def literal : R :=
  .choice
    [.token .integer, .token .real, .token .string, .token .verbatimString, .token .rawString,
     .token .character, .oneOf ["true", "false"] "boolean_literal",
     .oneOf ["null"] "null_literal"]

def interpolatedString : R :=
  let alignment : R := .node "interpolation_alignment_clause" (.seq [",", expression])
  let hole : R := .node "interpolation"
    (.seq [.token .holeStart, expression, .optional alignment, .optional (.token .format),
      .token .holeEnd])
  .node "interpolated_string_expression"
    (.seq [.token .opening, .many (.choice [.token .content, hole]), .token .closing])

/-- A variable that is declared where it is used, such as the target of an `out` argument. -/
def declarationExpression : R :=
  .node "declaration_expression"
    (.choice
      [.seq [.field "type" type, named, .ahead (anyOf [",", ")", "]"])],
       .seq [.oneOf ["var"] "implicit_type", .category .tupleNames]])

def argument : R :=
  .node "argument"
    (.seq
      [.optional (.seq [named, ":"]),
       .choice
        [.seq [anyOf ["ref", "out", "in"], .choice [declarationExpression, expression]],
         expression]])

def argumentList : R :=
  .node "argument_list" (inParens (commaListOrNone argument))

def bracketedArguments : R :=
  .node "bracketed_argument_list" (inBrackets (commaList argument))

/-! ## Brackets -/

def parenthesized : R :=
  .node "parenthesized_expression" (inParens expression)

def tuple : R :=
  let element : R := .choice [.node "argument" declarationExpression, argument]
  .node "tuple_expression" (inParens (.seq [element, some1 (.seq [",", element])]))

def collection : R :=
  .node "collection_expression" (inBrackets (commaListOpen expression))

/-! ## Functions without a name -/

def parameterModifier : R :=
  anyOf ["ref", "out", "in", "params", "this", "scoped", "readonly"]

def attributeList : R :=
  let argument : R := .node "attribute_argument"
    (.seq [.optional (.seq [.identifier, anyOf [":", "="]]), expression])
  let arguments : R := .node "attribute_argument_list" (inParens (commaListOrNone argument))
  let one : R := .node "attribute" (.seq [.field "name" name, .optional arguments])
  let target : R := .seq [.choice [.identifier, anyOf ["return", "event"]], ":"]
  .node "attribute_list"
    (inBrackets (.seq [.optional target, commaList one, .optional ","]))

def defaultValue : R := .seq ["=", expression]

def parameter : R :=
  .node "parameter"
    (.choice
      [.seq [.many attributeList, .many parameterModifier, .field "type" type, named,
        .optional defaultValue],
       "__arglist"])

def parameterList : R :=
  .node "parameter_list" (inParens (commaListOrNone parameter))

def lambda : R :=
  let bare : R := .node "parameter" (.seq [.many parameterModifier, named, .optional defaultValue])
  let parameters : R :=
    .node "parameter_list" (inParens (commaListOrNone (.choice [parameter, bare])))
  let body : R := .seq ["=>", .field "body" (.choice [block, expression])]
  let signature : R := .field "parameters"
    (.choice [parameters, .node "implicit_parameter" .identifier])
  .node "lambda_expression"
    (.choice
      [.seq [.many attributeList, .many (anyOf ["static", "async"]), signature, body],
       .seq [signature, body],
       .seq [.many attributeList, .many (anyOf ["static", "async"]), type, parameters, body]])

def anonymousMethod : R :=
  .node "anonymous_method_expression"
    (.seq [.many (anyOf ["static", "async"]), "delegate", .optional parameterList, block])

/-! ## Creation -/

def initializer : R := .category .initializer

def initializerRule : R :=
  let target : R :=
    .choice [.node "element_binding_expression" bracketedArguments, .identifier]
  let assigned : R := .node "assignment_expression"
    (.seq [.field "left" target, "=", .field "right" (.choice [initializer, expression])])
  .node "initializer_expression"
    (inBraces (commaListOpen (.choice [initializer, assigned, expression])))

def arraySizes : R :=
  let sizes : R := .node "array_rank_specifier" (inBrackets (commaList expression))
  .choice [.seq [sizes, .many arrayRank], some1 arrayRank]

/-- A type before the sizes of an array of it. -/
def elementType : R :=
  .chain (.choice [predefinedType, tupleType, functionPointerType, name])
    [("nullable_type", "type", .seq ["?", .ahead "["]), pointerSuffix]

def creation : R :=
  .choice
    [.node "array_creation_expression"
      (.seq ["new", .field "type" (.node "array_type" (.seq [elementType, arraySizes])),
        .optional initializer]),
     .node "object_creation_expression"
      (.seq ["new",
        .field "type"
          (.chain (.choice [predefinedType, tupleType, name])
            [("nullable_type", "type", .seq ["?", .ahead (anyOf ["(", "\x7b"])])]),
        .choice
          [.seq [.field "arguments" argumentList, .optional (.field "initializer" initializer)],
           .field "initializer" initializer]]),
     .node "anonymous_object_creation_expression"
      (.seq ["new", inBraces (commaListOpen expression)]),
     .node "implicit_array_creation_expression"
      (.seq ["new", inBrackets (.many ","), initializer]),
     .node "implicit_object_creation_expression"
      (.seq ["new", .field "arguments" argumentList, .optional initializer])]

def stackallocation : R :=
  .node "stackalloc_expression"
    (.seq ["stackalloc",
      .choice [.seq [elementType, arraySizes], arrayRank], .optional initializer])

/-! ## Operands -/

/-- What has to follow type arguments for them not to be two comparisons. -/
def afterTypeArguments : R :=
  .choice
    [anyOf ["(", ")", "]", "\x7d", ":", ";", ",", ".", "?", "==", "!=", "|", "^", "&&", "||", "&",
       "[", ">", "!"],
     .token .holeEnd, .token .format]

def operandName : R :=
  .choice
    [.node "generic_name" (.seq [.identifier, typeArguments, .ahead afterTypeArguments]),
     .identifier]

def typeOperator : R :=
  .choice
    [.node "typeof_expression" (.seq ["typeof", inParens (.field "type" type)]),
     .node "sizeof_expression" (.seq ["sizeof", inParens (.field "type" type)]),
     .node "default_expression"
      (.seq ["default", .optional (inParens (.field "type" type))]),
     .node "checked_expression" (.seq [anyOf ["checked", "unchecked"], inParens expression]),
     .node "makeref_expression" (.seq ["__makeref", inParens expression]),
     .node "reftype_expression" (.seq ["__reftype", inParens expression]),
     .node "refvalue_expression"
      (.seq ["__refvalue", inParens (.seq [expression, ",", .field "type" type])])]

def primary : R :=
  .choice
    [literal, interpolatedString, anyOf ["this", "base"], parenthesized, tuple, typeOperator,
     creation, stackallocation, anonymousMethod, collection,
     .seq [predefinedType, .ahead "."],
     .node "alias_qualified_name" (.seq [.identifier, "::", .field "name" operandName]),
     operandName]

/-- A primary expression with its member accesses, calls, subscripts and marks. -/
def postfixed : R :=
  let member : R := .seq [".", .field "name" operandName]
  .chain primary
    [("invocation_expression", "function", .field "arguments" argumentList),
     ("member_access_expression", "expression", member),
     ("conditional_access_expression", "condition",
      .seq ["?", .node "member_binding_expression" member]),
     ("conditional_access_expression", "condition",
      .seq [.ahead (.joined ["?", "["]), "?",
        .node "element_binding_expression" bracketedArguments]),
     ("element_access_expression", "expression", .field "subscript" bracketedArguments),
     ("postfix_unary_expression", "operand", anyOf ["++", "--", "!"]),
     ("member_access_expression", "expression", .seq ["->", .field "name" operandName])]

/-! ## Operators -/

/-- The words that follow an operand and never begin one. -/
def operatorWords : R :=
  anyOf ["is", "as", "switch", "with", "and", "or", "when", "where", "select", "orderby", "group",
    "join", "let", "into", "on", "equals", "by", "ascending", "descending", "in", "from"]

/-- What has to follow a name in brackets for it to be the type of a cast. -/
def castOperand : R :=
  let word : R :=
    .seq [.notAhead operatorWords,
      .choice
        [.identifier, predefinedType,
         anyOf ["this", "base", "new", "typeof", "sizeof", "default", "checked", "unchecked",
           "stackalloc", "delegate", "throw"]]]
  .choice
    [anyOf ["(", "!", "~"], literal, .token .opening, word,
     .seq [anyOf ["++", "--"], .choice ["(", word]]]

def cast : R :=
  let builtIn : R := .chain predefinedType
    [arraySuffix, ("nullable_type", "type", "?"), pointerSuffix]
  let operand : R := .field "value" (.category .unary)
  .node "cast_expression"
    (.choice
      [.seq [inParens (.field "type" type), .ahead castOperand, operand],
       .seq [inParens (.field "type" builtIn), operand]])

def unaryRule : R :=
  .choice
    [.node "prefix_unary_expression"
      (.seq [anyOf ["+", "-", "!", "~", "++", "--", "^", "&", "*"], .category .unary]),
     .node "await_expression" (.seq ["await", .category .unary]),
     .node "throw_expression" (.seq ["throw", expression]),
     cast, postfixed]

def conditional : R :=
  .chain (.category .coalescing)
    [("conditional_expression", "condition",
      .seq ["?", .field "consequence" expression, ":", .field "alternative" expression])]

/-- One case of a switch expression. Its guard is no lambda: the arrow behind it leads to the
    value of the case. -/
def switchArm : R :=
  .node "switch_expression_arm"
    (.seq [pattern, .optional (.node "when_clause" (.seq ["when", conditional])), "=>", expression])

/-- An operand with the braces that choose by it or change a copy of it. -/
def branched : R :=
  let change : R := .node "with_initializer" (.seq [.identifier, "=", expression])
  .chain (.category .unary)
    [("switch_expression", "expression", .seq ["switch", inBraces (commaListOpen switchArm)]),
     ("with_expression", "expression", .seq ["with", inBraces (commaListOpen change)])]

def ranged : R :=
  .choice
    [.node "range_expression" (.seq ["..", .optional branched]),
     .chain branched [("range_expression", "left", .seq ["..", .optional branched])]]

def binary (level : Nat) (operator : R) : Nat × String × R :=
  (level, "binary_expression", .seq [.field "operator" operator, ranged])

def sumOperators : List (Nat × String × R) :=
  [binary 1 (anyOf ["*", "/", "%"]),
   binary 2 (anyOf ["+", "-"]),
   binary 3 (.choice [.joined [">", ">", ">"], .joined [">", ">"], "<<"])]

def sumRule : R := .operators ranged sumOperators

/-- All operators between two operands, the tightest first. -/
def binaryOperators : List (Nat × String × R) :=
  sumOperators ++
  [binary 4 (.choice [.joined [">", "="], "<=", "<", ">"]),
   (4, "is_pattern_expression", .seq ["is", pattern]),
   (4, "as_expression", .seq ["as", testedType]),
   binary 5 (anyOf ["==", "!="]),
   binary 6 "&",
   binary 7 "^",
   binary 8 "|",
   binary 9 "&&",
   binary 10 "||"]

def coalescingRule : R :=
  .chain (.operators ranged binaryOperators)
    [("binary_expression", "left",
      .seq [.field "operator" "??", .field "right" (.category .coalescing)])]

def assignmentOperator : R :=
  .choice
    [anyOf ["=", "+=", "-=", "*=", "/=", "%=", "&=", "|=", "^=", "<<=", "??="],
     .joined [">", ">", "="], .joined [">", ">", ">", "="]]

def assignment : R :=
  .chain conditional
    [("assignment_expression", "left",
      .seq [.field "operator" assignmentOperator, .field "right" expression])]

/-! ## Queries -/

def query : R :=
  let source : R := .seq [.choice [.seq [named, "in"], .seq [type, named, "in"]], expression]
  let from_ : R := .node "from_clause" (.seq ["from", source])
  let clause : R :=
    .choice
      [from_,
       .node "let_clause" (.seq ["let", .identifier, "=", expression]),
       .node "where_clause" (.seq ["where", expression]),
       .node "join_clause"
        (.seq ["join", source, "on", expression, "equals", expression,
          .optional (.node "join_into_clause" (.seq ["into", .identifier]))]),
       .node "order_by_clause"
        (.seq ["orderby",
          commaList (.seq [expression, .optional (anyOf ["ascending", "descending"])])]),
       .node "select_clause" (.seq ["select", expression]),
       .node "group_clause" (.seq ["group", expression, "by", expression]),
       .seq ["into", .identifier]]
  .node "query_expression" (.seq [from_, some1 clause])

def expressionRule : R :=
  .choice
    [query, lambda, .node "ref_expression" (.seq ["ref", expression]), assignment]

end CallOrigin.CSharp.Grammar
