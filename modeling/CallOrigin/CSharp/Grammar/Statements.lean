import CallOrigin.CSharp.Grammar.Patterns

/-! # Statements of C# -/

namespace CallOrigin.CSharp.Grammar

def blockRule : R :=
  .node "block" (inBraces (.many statement))

/-! ## Declarations of variables -/

def declarator : R :=
  .node "variable_declarator"
    (.seq
      [named, .optional bracketedArguments,
       .optional (.seq ["=", .choice [initializer, expression]])])

/-- A declarator that takes its value apart has no name. -/
def deconstruction : R :=
  .node "variable_declarator" (.seq [.category .tupleNames, "=", expression])

/-- A type at the beginning of a statement; a word that awaits is none. -/
def localType : R :=
  .seq [.notAhead "await", type]

def variableDeclaration : R :=
  .node "variable_declaration"
    (.choice
      [.seq [.field "type" localType, commaList declarator],
       .seq [.field "type" (.oneOf ["var"] "implicit_type"), deconstruction]])

def localDeclaration : R :=
  .node "local_declaration_statement"
    (.seq
      [.optional "await", .optional "using",
       .many (.choice [anyOf ["const", "static", "readonly"], .seq ["scoped", .ahead type]]),
       variableDeclaration, ";"])

/-! ## Functions -/

def arrowClause : R :=
  .node "arrow_expression_clause" (.seq ["=>", expression])

def functionBody : R :=
  .choice [.field "body" block, .seq [.field "body" arrowClause, ";"], ";"]

def typeParameters : R :=
  .node "type_parameter_list"
    (.seq ["<",
      commaList (.node "type_parameter"
        (.seq [.many attributeList, .optional (anyOf ["in", "out"]), named])),
      ">"])

def constraints : R :=
  let one : R :=
    .choice
      [.seq ["class", .optional "?"], anyOf ["struct", "default"], .seq ["new", "(", ")"],
       .seq ["allows", "ref", "struct"], type]
  .many (.node "type_parameter_constraints_clause"
    (.seq ["where", .identifier, ":", commaList one]))

def localFunction : R :=
  .node "local_function_statement"
    (.seq
      [.many attributeList, .many (anyOf ["static", "async", "unsafe", "extern"]),
       .field "type" localType, named, .optional (.field "type_parameters" typeParameters),
       .field "parameters" parameterList, constraints, functionBody])

/-! ## Control flow -/

def ifStatement : R :=
  .node "if_statement"
    (.seq ["if", inParens (.field "condition" expression), .field "consequence" statement,
      .optional (.seq ["else", .field "alternative" statement])])

def loopStatement : R :=
  .choice
    [.node "while_statement" (.seq ["while", inParens expression, .field "body" statement]),
     .node "do_statement"
      (.seq ["do", .field "body" statement, "while", inParens expression, ";"]),
     .node "for_statement"
      (.seq ["for",
        inParens
          (.seq
            [.choice
              [.seq [variableDeclaration, ";"], .seq [commaListOrNone expression, ";"]],
             .optional expression, ";", commaListOrNone expression]),
        .field "body" statement]),
     .node "foreach_statement"
      (.seq
        [.optional "await", "foreach",
         inParens
          (.seq
            [.choice
              [.seq [.field "type" type, .field "left" .identifier, "in"],
               .seq [.oneOf ["var"] "implicit_type", .category .tupleNames, "in"],
               .seq [tuple, "in"]],
             .field "right" expression]),
         .field "body" statement])]

def switchLabel : R :=
  let guarded (r : R) : R :=
    .seq ["case", r, .optional (.node "when_clause" (.seq ["when", expression])), ":"]
  .choice
    [guarded pattern, guarded (.node "constant_pattern" conditional), .seq ["default", ":"]]

def switchStatement : R :=
  let bodyStatement : R :=
    .seq [.notAhead (.choice ["case", .seq ["default", ":"]]), statement]
  .node "switch_statement"
    (.seq ["switch", .choice [inParens expression, tuple],
      .node "switch_body" (inBraces (.many
        (.node "switch_section" (.seq [some1 switchLabel, .many bodyStatement]))))])

def tryStatement : R :=
  let declaration : R := .node "catch_declaration"
    (inParens (.seq [.field "type" type, .optional named]))
  let filter : R := .node "catch_filter_clause" (.seq ["when", inParens expression])
  .node "try_statement"
    (.seq ["try", block,
      .many (.node "catch_clause"
        (.seq ["catch", .optional declaration, .optional filter, block])),
      .optional (.node "finally_clause" (.seq ["finally", block]))])

def jumpStatement : R :=
  .choice
    [.node "return_statement" (.seq ["return", .optional expression, ";"]),
     .node "break_statement" (.seq ["break", ";"]),
     .node "continue_statement" (.seq ["continue", ";"]),
     .node "throw_statement" (.seq ["throw", .optional expression, ";"]),
     .node "goto_statement"
      (.seq ["goto", .choice [.seq ["case", expression], "default", .identifier], ";"]),
     .node "yield_statement"
      (.seq ["yield", .choice [.seq ["return", expression], "break"], ";"])]

/-- Statements that hold something while another statement runs. -/
def scopeStatement : R :=
  .choice
    [.node "lock_statement" (.seq ["lock", inParens expression, statement]),
     .node "using_statement"
      (.seq
        [.optional "await", "using",
         .choice [inParens variableDeclaration, inParens expression],
         .field "body" statement]),
     .node "fixed_statement" (.seq ["fixed", inParens variableDeclaration, statement]),
     .node "checked_statement" (.seq [anyOf ["checked", "unchecked"], block]),
     .node "unsafe_statement" (.seq ["unsafe", block])]

/-! ## All statements -/

/-- What is no statement, up to the next semicolon or closing brace. Calls inside of it are
    still recognised. -/
def brokenStatement : R :=
  let piece : R :=
    .seq [.notAhead (anyOf [";", "\x7d"]), .choice [block, expression, .any]]
  .node "ERROR" (.seq [some1 piece, .optional ";"])

def statementRule : R :=
  .choice
    [block, .node "empty_statement" ";", ifStatement, loopStatement, switchStatement, tryStatement,
     jumpStatement, scopeStatement,
     .node "labeled_statement" (.seq [.identifier, ":", statement]),
     localFunction, localDeclaration,
     .node "expression_statement" (.seq [expression, ";"]),
     brokenStatement]

end CallOrigin.CSharp.Grammar
