import CallOrigin.Source.Escape
import CallOrigin.Syntax.Node
import CallOrigin.Text.Blank

/-! # Literals

The value of a literal is its text without quotes and with its escapes read. A number, a truth
value and `null` are their own text. -/

namespace CallOrigin

/-- How a literal is written. -/
inductive Literal where
  | string
  /-- Between quotes after an at sign; a quote inside is doubled. -/
  | verbatimString
  | rawString
  | character
  | integer
  | real
  | boolean
  | null
deriving Repr, DecidableEq

namespace Literal

def ofKind? : String → Option Literal
  | "string_literal" => some .string
  | "verbatim_string_literal" => some .verbatimString
  | "raw_string_literal" => some .rawString
  | "character_literal" => some .character
  | "integer_literal" => some .integer
  | "real_literal" => some .real
  | "boolean_literal" => some .boolean
  | "null_literal" => some .null
  | _ => none

def inner (text : List Char) : List Char :=
  (text.drop 1).dropLast

def withoutMark (text : List Char) : List Char :=
  if ['u', '8'].isSuffixOf text then text.dropLast.dropLast else text

/-- A text in which every two quotes in a row are one. -/
def undoubled : List Char → List Char
  | '"' :: '"' :: rest => '"' :: undoubled rest
  | c :: rest => c :: undoubled rest
  | [] => []

def isLineBreak (c : Char) : Bool :=
  c == '\r' || c == '\n'

/-- The value of a literal that is written as `text`. The lines of a raw text keep their
    indentation. -/
def value (l : Literal) (text : String) : String :=
  match l with
  | string => Escape.decode (String.ofList (inner (withoutMark text.toList)))
  | verbatimString =>
    String.ofList (undoubled (inner (text.toList.dropWhile (· == '@'))))
  | rawString =>
    String.ofList (Text.trimBy isLineBreak (Text.trimBy (· == '"') text.toList))
  | character => Escape.decode (String.ofList (inner text.toList))
  | integer | real | boolean | null => text

end Literal

namespace Node

def unwrapped (n : Node) : Node :=
  if n.kind == "literal" then
    match n.namedChildren with
    | [child] => child
    | _ => n
  else n

def literal? (n : Node) : Option Literal :=
  Literal.ofKind? n.unwrapped.kind

/-- The value of a literal; the text of any other node. -/
def literalValue (source : List UInt8) (n : Node) : String :=
  let text := n.unwrapped.text source
  match n.literal? with
  | some l => l.value text
  | none => text

end Node

end CallOrigin
