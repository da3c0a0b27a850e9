import CallOrigin.CSharp.Token

/-! # Grammar rules

A rule says which tokens it takes from the front of a list and which nodes it makes of them.
Choices are ordered: the first alternative that fits is taken. Rules refer to each other by
syntactic category, so a grammar is a rule for every category. -/

namespace CallOrigin.CSharp

/-- A rule over the categories `κ`. -/
inductive Rule (κ : Type) where
  | text (spelling : String)
  /-- Symbols with nothing between them that make one operator. -/
  | joined (spellings : List String)
  | identifier
  /-- A word of a list, as a node of the given kind. -/
  | oneOf (words : List String) (kind : String)
  | token (cls : TokenClass)
  | any
  /-- Nothing left. -/
  | finished
  /-- The rule of a category. -/
  | category (c : κ)
  | seq (rules : List (Rule κ))
  /-- The first rule that fits. -/
  | choice (rules : List (Rule κ))
  | many (rule : Rule κ)
  | optional (rule : Rule κ)
  /-- Takes nothing, and fits where the rule does. -/
  | ahead (rule : Rule κ)
  /-- Takes nothing, and fits where the rule does not. -/
  | notAhead (rule : Rule κ)
  /-- The nodes of a rule play the given part. -/
  | field (name : String) (rule : Rule κ)
  | node (kind : String) (rule : Rule κ)
  /-- A rule and then any of several continuations, as often as one fits. A continuation has a
      kind for the node that it makes, the part that all that precedes plays in that node, and
      a rule for the rest of it. -/
  | chain (head : Rule κ) (continuations : List (String × String × Rule κ))
  /-- Operands with operators between them. Each operator has a level, the tighter the lower,
      and a kind for the node that it makes; its rule takes the operator and what is right of it. -/
  | operators (operand : Rule κ) (table : List (Nat × String × Rule κ))

/-- A keyword, operator or bracket may stand for its rule. -/
instance {κ : Type} : Coe String (Rule κ) := ⟨.text⟩

def nodeOver (kind : String) (children : List Node) : Option Node :=
  match children, children.getLast? with
  | first :: _, some last =>
    some ⟨kind, true, none, first.start, last.stop, first.point, children⟩
  | _, _ => none

def playing (part : String) (n : Node) : Node :=
  { n with field := some part }

/-- A node over what precedes an operator and what the operator took. -/
def nested (kind part : String) (head : Node) (tail : List Node) : Node :=
  ⟨kind, true, none, head.start, ((playing part head :: tail).getLast?.map (·.stop)).getD head.stop,
    head.point, playing part head :: tail⟩

/-- An operator with what is right of it: its level, the kind of its node, the operator's own
    nodes and the right operand. -/
structure Applied where
  level : Nat
  kind : String
  operator : List Node
  right : Node

/-- Makes one node of each operator of a level and its operands, from the left. -/
def nestLevel (level : Nat) (first : Node) : List Applied → Node × List Applied
  | [] => (first, [])
  | op :: rest =>
    if op.level == level then
      nestLevel level (nested op.kind "left" first (op.operator ++ [op.right])) rest
    else
      let (right, rest) := nestLevel level op.right rest
      (first, { op with right := right } :: rest)

/-- Makes one tree of operands and operators, level by level. -/
def nestOperators (levels : List Nat) (first : Node) (applied : List Applied) : Node :=
  (levels.foldl (fun acc level => nestLevel level acc.1 acc.2) (first, applied)).1

/-- Splits the nodes that an operator took into the operator and its right operand. -/
def Applied.of? (level : Nat) (kind : String) (nodes : List Node) : Option Applied :=
  nodes.getLast?.map fun right => ⟨level, kind, nodes.dropLast, playing "right" right⟩

/-- The nodes of a rule and the tokens that it leaves. -/
abbrev Taken := Option (List Node × List Token)

namespace Rule

variable {κ : Type}

def takeJoined : List String → List Token → Option (Node × List Token)
  | [], _ => none
  | _ :: _, [] => none
  | [s], t :: rest => if t.spells s then some (t.node, rest) else none
  | s :: more, t :: rest =>
    if t.spells s && rest.head?.any (·.start == t.stop) then
      (takeJoined more rest).map fun (n, rest) =>
        (⟨t.text ++ n.kind, false, none, t.start, n.stop, t.point, []⟩, rest)
    else none

/-- Goes on with a chain as long as a continuation fits, at most `steps` times. -/
def extendChain (run : Rule κ → List Token → Taken)
    (continuations : List (String × String × Rule κ)) : (steps : Nat) → Node → List Token →
    Node × List Token
  | 0, n, tokens => (n, tokens)
  | steps + 1, n, tokens =>
    let longer := continuations.findSome? fun (kind, part, r) =>
      (run r tokens).map fun (nodes, rest) => (nested kind part n nodes, rest)
    match longer with
    | some (n, rest) => extendChain run continuations steps n rest
    | none => (n, tokens)

/-- Takes operators with their right operands as long as one fits, at most `steps` times; those
    of `found` precede, last first. -/
def collectOperators (run : Rule κ → List Token → Taken)
    (table : List (Nat × String × Rule κ)) : (steps : Nat) → (found : List Applied) →
    List Token → List Applied × List Token
  | 0, found, tokens => (found.reverse, tokens)
  | steps + 1, found, tokens =>
    let next := table.findSome? fun (level, kind, r) =>
      (run r tokens).bind fun (nodes, rest) =>
        (Applied.of? level kind nodes).map fun op => (op, rest)
    match next with
    | some (op, rest) => collectOperators run table steps (op :: found) rest
    | none => (found.reverse, tokens)

/-- Takes tokens by a rule. The depth of the rules inside of each other is bounded by `fuel`;
    where it runs out, the rule does not fit. -/
def take (grammar : κ → Rule κ) : (fuel : Nat) → Rule κ → List Token → Taken
  | 0, _, _ => none
  | fuel + 1, rule, tokens =>
    let run := take grammar fuel
    match rule with
    | text spelling =>
      match tokens with
      | t :: rest => if t.spells spelling then some ([t.node], rest) else none
      | [] => none
    | joined spellings => (takeJoined spellings tokens).map fun (n, rest) => ([n], rest)
    | identifier =>
      match tokens with
      | t :: rest => if t.isIdentifier then some ([t.leaf "identifier"], rest) else none
      | [] => none
    | oneOf words kind =>
      match tokens with
      | t :: rest =>
        if t.cls == .word && words.contains t.text then some ([t.leaf kind], rest) else none
      | [] => none
    | token cls =>
      match tokens with
      | t :: rest => if t.cls == cls then some ([t.node], rest) else none
      | [] => none
    | any =>
      match tokens with
      | t :: rest => some ([t.node], rest)
      | [] => none
    | finished => if tokens.isEmpty then some ([], []) else none
    | category c => run (grammar c) tokens
    | seq [] => some ([], tokens)
    | seq (r :: rules) =>
      match run r tokens with
      | some (nodes, rest) => (run (seq rules) rest).map fun (more, rest) => (nodes ++ more, rest)
      | none => none
    | choice [] => none
    | choice (r :: rules) =>
      match run r tokens with
      | some taken => some taken
      | none => run (choice rules) tokens
    | many r =>
      match run r tokens with
      | some (nodes, rest) =>
        if rest.length < tokens.length then
          (run (many r) rest).map fun (more, rest) => (nodes ++ more, rest)
        else some ([], tokens)
      | none => some ([], tokens)
    | optional r =>
      match run r tokens with
      | some taken => some taken
      | none => some ([], tokens)
    | ahead r => (run r tokens).map fun _ => ([], tokens)
    | notAhead r => if (run r tokens).isSome then none else some ([], tokens)
    | field name r => (run r tokens).map fun (nodes, rest) => (nodes.map (playing name), rest)
    | node kind r =>
      (run r tokens).map fun (nodes, rest) => ((nodeOver kind nodes).toList, rest)
    | chain head continuations =>
      match run head tokens with
      | some ([n], rest) =>
        let (n, rest) := extendChain run continuations fuel n rest
        some ([n], rest)
      | other => other
    | operators operand table =>
      match run operand tokens with
      | some ([n], rest) =>
        let (applied, rest) := collectOperators run table fuel [] rest
        some ([nestOperators (table.map (·.1)).eraseDups.mergeSort n applied], rest)
      | other => other

end Rule

end CallOrigin.CSharp
