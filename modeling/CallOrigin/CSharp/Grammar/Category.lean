import CallOrigin.CSharp.Rule

/-! # Syntactic categories of C#

The categories that rules refer to, and the shapes of list and bracket that most rules use. -/

namespace CallOrigin.CSharp

/-- The parts of a C# source that contain each other. -/
inductive Category where
  | type
  | expression
  | coalescing
  | unary
  | sum
  | initializer
  | tupleNames
  | pattern
  | negatedPattern
  | statement
  | block
  | member
deriving Repr, DecidableEq

namespace Grammar

abbrev R := Rule Category

def type : R := .category .type
def expression : R := .category .expression
def statement : R := .category .statement
def block : R := .category .block
def pattern : R := .category .pattern

/-- An identifier in the part of a name. -/
def named : R := .field "name" .identifier

def openBrace : R := .text "\x7b"
def closeBrace : R := .text "\x7d"

def commaList (r : R) : R :=
  .seq [r, .many (.seq [",", r])]

def commaListOrNone (r : R) : R :=
  .optional (commaList r)

/-- Any number, with commas between them and perhaps one at the end. -/
def commaListOpen (r : R) : R :=
  .optional (.seq [commaList r, .optional ","])

def inParens (r : R) : R := .seq ["(", r, ")"]
def inBrackets (r : R) : R := .seq ["[", r, "]"]
def inBraces (r : R) : R := .seq [openBrace, r, closeBrace]

def some1 (r : R) : R := .seq [r, .many r]

def anyOf (spellings : List String) : R :=
  .choice (spellings.map .text)

end Grammar

end CallOrigin.CSharp
