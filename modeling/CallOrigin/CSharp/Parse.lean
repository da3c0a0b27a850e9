import CallOrigin.CSharp.Lexer
import CallOrigin.CSharp.Grammar.Declarations
import CallOrigin.Syntax.Tree

/-! # From source to tree -/

namespace CallOrigin.CSharp

/-- Whether every conditional directive is closed, `depth` of them being open. -/
def conditionalsClosed (depth : Nat) : List Token → Bool
  | [] => depth == 0
  | t :: rest =>
    let word := Lexeme.directiveWord (t.text.toList.drop 1)
    if word == "if" then conditionalsClosed (depth + 1) rest
    else if word == "endif" then depth != 0 && conditionalsClosed (depth - 1) rest
    else if word == "else" || word == "elif" then depth != 0 && conditionalsClosed depth rest
    else conditionalsClosed depth rest

/-- The comments that begin before an offset, and those that do not. -/
def commentsBefore (offset : Nat) (comments : List Node) : List Node × List Node :=
  comments.span (·.start < offset)

mutual

/-- Puts each comment that stands between two children of a node among them, into the smallest
    node of which that is true. Gives back the comments that stand behind the node. -/
def attachComments (comments : List Node) : Node → Node × List Node
  | ⟨kind, named, field, start, stop, point, children⟩ =>
    let (children, rest) := attachAmong comments children
    (⟨kind, named, field, start, stop, point, children⟩, rest)

def attachAmong (comments : List Node) : List Node → List Node × List Node
  | [] => ([], comments)
  | n :: rest =>
    let (before, comments) := commentsBefore n.start comments
    let (n, comments) := attachComments comments n
    let (rest, comments) := attachAmong comments rest
    (before ++ n :: rest, comments)

end

/-- The depth to which rules may be inside of each other. A token is inside of fewer rules than
    this allows for, and rules inside of a bracket come with the tokens of the bracket. -/
def ruleDepth (tokens : List Token) : Nat :=
  400 * (tokens.length + 1)

/-- The tree of a source. Comments are nodes of it; directives only part its lines. -/
def parse (source : String) : SyntaxTree :=
  let all := scan source
  let comments := (all.filter (·.cls == .comment)).map Token.node
  let directives := all.filter (·.cls == .directive)
  let tokens := all.filter fun t => t.cls != .comment && t.cls != .directive
  let items :=
    match Grammar.compilationUnit.take Grammar.rules (ruleDepth tokens) tokens with
    | some (nodes, _) => nodes
    | none => []
  let (items, trailing) := attachAmong comments items
  let root : Node :=
    ⟨"compilation_unit", true, none, 0, source.utf8ByteSize, ⟨0, 0⟩, items ++ trailing⟩
  ⟨root, !conditionalsClosed 0 directives || root.descendants.any (·.kind == "ERROR")⟩

end CallOrigin.CSharp
