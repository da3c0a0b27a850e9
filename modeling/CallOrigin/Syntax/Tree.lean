import CallOrigin.Syntax.Node

/-! # Parsed sources -/

namespace CallOrigin

/-- What a parser makes of a source. A source that does not follow the grammar has a tree too. -/
structure SyntaxTree where
  root : Node
  /-- Whether some part of the source follows no rule of the grammar. -/
  hasError : Bool
deriving Repr

/-- A parser takes every source. -/
abbrev Parser := String → SyntaxTree

inductive GrammarError where
  | missing
deriving Repr, DecidableEq

def GrammarError.message : GrammarError → String
  | missing =>
    "Could not load the C# grammar.\n"
      ++ "- Install `tree-sitter-c-sharp` (pip install tree-sitter-c-sharp)."

def Parser.required : Option Parser → Except GrammarError Parser
  | some parse => .ok parse
  | none => .error .missing

end CallOrigin
