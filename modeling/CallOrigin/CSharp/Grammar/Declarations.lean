import CallOrigin.CSharp.Grammar.Statements

/-! # Declarations of C# -/

namespace CallOrigin.CSharp.Grammar

def modifier : R :=
  .choice
    [.oneOf
      ["abstract", "async", "const", "extern", "file", "fixed", "internal", "new", "override",
       "partial", "private", "protected", "public", "readonly", "required", "sealed", "static",
       "unsafe", "virtual", "volatile"] "modifier",
     .seq [.oneOf ["ref"] "modifier", .ahead (anyOf ["struct", "partial"])]]

/-- The attributes and modifiers that a declaration begins with. -/
def declarationHead : R :=
  .seq [.many attributeList, .many modifier]

/-- The interface of which a member is spelt out. -/
def explicitInterface : R :=
  .optional (.node "explicit_interface_specifier"
    (some1 (.seq [.choice [aliasQualifiedName, simpleName], "."])))

/-! ## Members -/

def method : R :=
  .node "method_declaration"
    (.seq
      [declarationHead, .field "returns" type, explicitInterface, named,
       .optional (.field "type_parameters" typeParameters),
       .field "parameters" parameterList, constraints, functionBody])

def constructor : R :=
  let initializer : R := .node "constructor_initializer"
    (.seq [":", anyOf ["base", "this"], argumentList])
  .node "constructor_declaration"
    (.seq
      [declarationHead, named, .field "parameters" parameterList, .optional initializer,
       functionBody])

def destructor : R :=
  .node "destructor_declaration"
    (.seq [declarationHead, "~", named, .field "parameters" parameterList, functionBody])

def accessorList : R :=
  .node "accessor_list"
    (inBraces (.many
      (.node "accessor_declaration"
        (.seq [declarationHead, anyOf ["get", "set", "init", "add", "remove"], functionBody]))))

/-- The accessors of a member, or the one expression that stands for its getter. -/
def accessors : R :=
  .choice [.field "accessors" accessorList, .seq [.field "value" arrowClause, ";"]]

def property : R :=
  .node "property_declaration"
    (.seq
      [declarationHead, .field "type" type, explicitInterface, named, accessors,
       .optional (.seq ["=", .field "value" (.choice [initializer, expression]), ";"])])

def indexer : R :=
  let parameters : R := .node "bracketed_parameter_list" (inBrackets (commaList parameter))
  .node "indexer_declaration"
    (.seq
      [declarationHead, .field "type" type, explicitInterface, "this",
       .field "parameters" parameters, accessors])

def event : R :=
  .choice
    [.node "event_field_declaration" (.seq [declarationHead, "event", variableDeclaration, ";"]),
     .node "event_declaration"
      (.seq
        [declarationHead, "event", .field "type" type, explicitInterface, named,
         .choice [accessors, ";"]])]

def field : R :=
  .node "field_declaration" (.seq [declarationHead, variableDeclaration, ";"])

def operatorDeclaration : R :=
  let overloadable : R :=
    .choice
      [.joined [">", ">", ">"], .joined [">", ">"], .joined [">", "="],
       anyOf ["+", "-", "!", "~", "++", "--", "true", "false", "*", "/", "%", "&", "|", "^", "<<",
         "==", "!=", "<=", ">", "<"]]
  .choice
    [.node "operator_declaration"
      (.seq
        [declarationHead, .field "type" type, explicitInterface, "operator", .optional "checked",
         overloadable, .field "parameters" parameterList, functionBody]),
     .node "conversion_operator_declaration"
      (.seq
        [declarationHead, anyOf ["implicit", "explicit"], explicitInterface, "operator",
         .optional "checked", .field "type" type, .field "parameters" parameterList,
         functionBody])]

/-! ## Types and namespaces -/

def declarationList : R :=
  .node "declaration_list" (inBraces (.many (.category .member)))

def baseList : R :=
  .node "base_list" (.seq [":", commaList (.seq [type, .optional argumentList])])

/-- A type with members, introduced by the given words. -/
def typeWithMembers (kind : String) (introduction : R) : R :=
  .node kind
    (.seq
      [declarationHead, introduction, named, .optional typeParameters,
       .optional (.field "parameters" parameterList), .optional baseList, constraints,
       .choice [.seq [.field "body" declarationList, .optional ";"], ";"]])

def enumDeclaration : R :=
  let member : R := .node "enum_member_declaration"
    (.seq [.many attributeList, named, .optional (.seq ["=", .field "value" expression])])
  .node "enum_declaration"
    (.seq
      [declarationHead, "enum", named, .optional (.seq [":", type]),
       .field "body" (.node "enum_member_declaration_list" (inBraces (commaListOpen member))),
       .optional ";"])

def delegateDeclaration : R :=
  .node "delegate_declaration"
    (.seq
      [declarationHead, "delegate", .field "type" type, named, .optional typeParameters,
       .field "parameters" parameterList, constraints, ";"])

def typeDeclaration : R :=
  .choice
    [typeWithMembers "class_declaration" "class",
     typeWithMembers "struct_declaration" "struct",
     typeWithMembers "interface_declaration" "interface",
     typeWithMembers "record_declaration"
      (.seq ["record", .optional (anyOf ["class", "struct"])]),
     enumDeclaration, delegateDeclaration]

def usingDirective : R :=
  .node "using_directive"
    (.seq
      [.optional "global", "using", .optional "static", .optional "unsafe",
       .choice [.seq [named, "=", type], name], ";"])

def namespaceDeclaration : R :=
  .choice
    [.node "namespace_declaration"
      (.seq ["namespace", .field "name" name, .field "body" declarationList, .optional ";"]),
     .node "file_scoped_namespace_declaration" (.seq ["namespace", .field "name" name, ";"])]

def externAlias : R :=
  .node "extern_alias_directive" (.seq ["extern", "alias", .identifier, ";"])

/-- What is no member: one token, so that a member right behind it is still found. -/
def brokenMember : R :=
  .seq [.notAhead closeBrace, .node "ERROR" .any]

def memberRule : R :=
  .choice
    [typeDeclaration, namespaceDeclaration, usingDirective, externAlias, constructor, destructor,
     operatorDeclaration, event, indexer, method, property, field, brokenMember]

/-! ## A whole source -/

def globalAttribute : R :=
  .node "global_attribute"
    (inBrackets (.seq [anyOf ["assembly", "module"], ":",
      commaList (.seq [name, .optional argumentList]), .optional ","]))

/-- Everything that stands in a source outside of any declaration. -/
def compilationUnit : R :=
  .many
    (.choice
      [usingDirective, externAlias, globalAttribute, namespaceDeclaration, typeDeclaration,
       .node "global_statement" statement, .node "ERROR" .any])

def rules : Category → R
  | .type => typeRule
  | .expression => expressionRule
  | .coalescing => coalescingRule
  | .unary => unaryRule
  | .sum => sumRule
  | .initializer => initializerRule
  | .tupleNames => tupleNamesRule
  | .pattern => patternRule
  | .negatedPattern => negatedPatternRule
  | .statement => statementRule
  | .block => blockRule
  | .member => memberRule

end CallOrigin.CSharp.Grammar
