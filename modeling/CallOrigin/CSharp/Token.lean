import CallOrigin.Syntax.Node

/-! # Tokens of C#

A token is a stretch of source with its class. The text of an interpolated string is cut into
its opening quote, its literal stretches, its holes and its closing quote, so that the tokens
inside a hole stand in the list like any others. -/

namespace CallOrigin.CSharp

/-- What a stretch of source is. -/
inductive TokenClass where
  | word
  | symbol
  | integer
  | real
  | string
  | verbatimString
  | rawString
  | character
  | comment
  | directive
  | opening
  | content
  | holeStart
  | format
  | holeEnd
  | closing
  | unknown
deriving Repr, DecidableEq

/-- A stretch of source. -/
structure Token where
  cls : TokenClass
  text : String
  /-- Offset of its first byte. -/
  start : Nat
  /-- Offset after its last byte. -/
  stop : Nat
  point : Point
deriving Repr, DecidableEq

def reservedWords : List String :=
  ["abstract", "as", "base", "bool", "break", "byte", "case", "catch", "char", "checked",
   "class", "const", "continue", "decimal", "default", "delegate", "do", "double", "else",
   "enum", "event", "explicit", "extern", "false", "finally", "fixed", "float", "for",
   "foreach", "goto", "if", "implicit", "in", "int", "interface", "internal", "is", "lock",
   "long", "namespace", "new", "null", "object", "operator", "out", "override", "params",
   "private", "protected", "public", "readonly", "ref", "return", "sbyte", "sealed", "short",
   "sizeof", "stackalloc", "static", "string", "struct", "switch", "this", "throw", "true",
   "try", "typeof", "uint", "ulong", "unchecked", "unsafe", "ushort", "using", "virtual",
   "void", "volatile", "while"]

def predefinedTypes : List String :=
  ["bool", "byte", "char", "decimal", "double", "float", "int", "long", "nint", "nuint",
   "object", "sbyte", "short", "string", "uint", "ulong", "ushort", "void"]

/-- The kind of node that a token of a class makes by itself; a token of any other class has
    its text for a kind and is unnamed. -/
def TokenClass.kind? : TokenClass → Option String
  | .integer => some "integer_literal"
  | .real => some "real_literal"
  | .string => some "string_literal"
  | .verbatimString => some "verbatim_string_literal"
  | .rawString => some "raw_string_literal"
  | .character => some "character_literal"
  | .comment => some "comment"
  | .content => some "string_content"
  | .format => some "interpolation_format_clause"
  | _ => none

namespace Token

/-- Whether a token is the given keyword, operator or bracket. -/
def spells (t : Token) (text : String) : Bool :=
  (t.cls == .word || t.cls == .symbol) && t.text == text

def isIdentifier (t : Token) : Bool :=
  t.cls == .word && !reservedWords.contains t.text

def leaf (t : Token) (kind : String) : Node :=
  ⟨kind, true, none, t.start, t.stop, t.point, []⟩

def node (t : Token) : Node :=
  match t.cls.kind? with
  | some kind => t.leaf kind
  | none => ⟨t.text, false, none, t.start, t.stop, t.point, []⟩

end Token

end CallOrigin.CSharp
