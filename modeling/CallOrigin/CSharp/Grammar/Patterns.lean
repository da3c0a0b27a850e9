import CallOrigin.CSharp.Grammar.Expressions

/-! # Patterns of C# -/

namespace CallOrigin.CSharp.Grammar

/-- The name that a pattern gives to what it matches. -/
def designation : R :=
  .seq [.notAhead operatorWords, named]

def subpatterns : R :=
  commaListOpen
    (.node "subpattern"
      (.seq [.optional (.seq [.chain .identifier
          [("member_access_expression", "expression", .seq [".", .field "name" .identifier])],
        ":"]), pattern]))

def positionalClause : R :=
  .node "positional_pattern_clause" (inParens subpatterns)

def propertyClause : R :=
  .node "property_pattern_clause" (inBraces subpatterns)

def recursivePattern : R :=
  .node "recursive_pattern"
    (.seq
      [.choice
        [.seq [testedType, positionalClause, .optional propertyClause],
         .seq [testedType, propertyClause],
         .seq [positionalClause, .optional propertyClause],
         propertyClause],
       .optional designation, .ahead afterType])

def primaryPattern : R :=
  let slice : R := .node "slice_pattern" (.seq ["..", .optional pattern])
  .choice
    [.node "relational_pattern"
      (.seq [.choice [.joined [">", "="], "<=", "<", ">"], .category .sum]),
     .node "discard" (.seq ["_", .ahead afterType]),
     .node "var_pattern" (.seq ["var", .choice [designation, .category .tupleNames]]),
     .node "list_pattern"
      (.seq [inBrackets (commaListOpen (.choice [slice, pattern])), .optional designation]),
     .seq [.node "parenthesized_pattern" (inParens pattern), .ahead afterType],
     recursivePattern,
     .node "declaration_pattern" (.seq [.field "type" testedType, designation]),
     .seq [.node "type_pattern" (.field "type" testedType), .ahead afterType],
     .node "constant_pattern" (.category .sum)]

def negatedPatternRule : R :=
  .choice
    [.node "negated_pattern" (.seq ["not", .category .negatedPattern]), primaryPattern]

def patternRule : R :=
  .chain
    (.chain (.category .negatedPattern)
      [("and_pattern", "left",
        .seq [.field "operator" "and", .field "right" (.category .negatedPattern)])])
    [("or_pattern", "left",
      .seq [.field "operator" "or", .field "right"
        (.chain (.category .negatedPattern)
          [("and_pattern", "left",
            .seq [.field "operator" "and", .field "right" (.category .negatedPattern)])])])]

def tupleNamesRule : R :=
  .node "tuple_pattern"
    (inParens (commaList (.choice [.category .tupleNames, .field "name" .identifier])))

end CallOrigin.CSharp.Grammar
