import CallOrigin.Calls.Extraction
import CallOrigin.Proofs.Positions

/-! # What is taken for an argument's value

An argument ends with its expression, and a declarator begins with the name that it declares. The
two are looked up by what the nodes are called and by whether they are named, so that a value
without a name of its own (`this`, `base`) is passed over, and a declarator that takes a tuple apart
goes by the variable that it takes apart. Apart from these, an argument is what its expression
says, and a variable without a declarator is not resolved.
-/

namespace CallOrigin

namespace Node

variable {source : List UInt8} {method : Node} {variable_ : String}

/-! ## Values of variables -/

theorem literal?_of_kind {n : Node} (bare : n.kind ≠ "literal") :
    n.literal? = Literal.ofKind? n.kind := by
  have itself : n.unwrapped = n := by simp [unwrapped, bare]
  rw [literal?, itself]

theorem literal?_identifier {n : Node} (identifier : n.kind = "identifier") :
    n.literal? = none := by
  rw [literal?_of_kind (by simp [identifier]), identifier]
  rfl

theorem resolve_literal {n : Node} (isLiteral : n.literal?.isSome) :
    method.resolve source n = .literal (n.literalValue source) := by
  rw [resolve, if_pos isLiteral]

theorem resolve_identifier_none {n : Node} (identifier : n.kind = "identifier")
    (nothing : method.localInitializer? source (n.text source) = none) :
    method.resolve source n = .unresolved (n.text source) := by
  simp [resolve, literal?_identifier identifier, identifier, nothing]

theorem resolve_identifier_some {n value : Node} (identifier : n.kind = "identifier")
    (found : method.localInitializer? source (n.text source) = some value) :
    method.resolve source n =
      if value.literal?.isSome then .literal (value.literalValue source)
      else .expression (value.text source) := by
  simp [resolve, literal?_identifier identifier, identifier, found]

theorem resolve_other {n : Node} (notLiteral : ¬ n.literal?.isSome)
    (other : n.kind ≠ "identifier") :
    method.resolve source n = .expression (n.text source) := by
  rw [resolve, if_neg notLiteral, if_neg (by simpa using other)]

theorem resolve_ne_missing (expression : Node) : method.resolve source expression ≠ .missing := by
  fun_cases resolve source method expression <;> simp

/-- That a declarator goes by a name and has a value. -/
structure Initialises (source : List UInt8) (d : Node) (variable_ : String) (value : Node) :
    Prop where
  kind : d.kind = "variable_declarator"
  named : ∃ name, d.declaredName? = some name ∧ name.text source = variable_
  value : d.initializer? = some value

theorem initialises_iff (d value : Node) :
    (if d.kind == "variable_declarator"
        && d.declaredName?.any (fun name => name.text source == variable_)
      then d.initializer? else none) = some value ↔ d.Initialises source variable_ value := by
  constructor
  · intro taken
    split at taken
    next asked =>
      simp only [Bool.and_eq_true, beq_iff_eq, Option.any_eq_true] at asked
      obtain ⟨kind, name, named, text⟩ := asked
      exact ⟨kind, ⟨name, named, text⟩, taken⟩
    next => cases taken
  · rintro ⟨kind, ⟨name, named, text⟩, value⟩
    simp [kind, named, text, value]

theorem initialises_of_localInitializer? {value : Node}
    (found : method.localInitializer? source variable_ = some value) :
    ∃ d ∈ method.descendants, d.Initialises source variable_ value := by
  obtain ⟨d, inside, taken⟩ := List.exists_of_findSome?_eq_some found
  exact ⟨d, inside, (initialises_iff d value).mp taken⟩

theorem localInitializer?_eq_none_iff :
    method.localInitializer? source variable_ = none ↔
      ∀ d ∈ method.descendants, ∀ value, ¬ d.Initialises source variable_ value := by
  rw [localInitializer?, List.findSome?_eq_none_iff]
  refine forall₂_congr fun d _ => ?_
  simp only [← initialises_iff, Option.eq_none_iff_forall_ne_some, ne_eq]

/-! ## Declarators -/

/-- An equals sign is no expression, nor is what holds one together with an expression. -/
def IsExpression (n : Node) : Prop := n.kind ≠ "=" ∧ n.kind ≠ "equals_value_clause"

/-- That a declarator takes a tuple apart and has no name. -/
structure Deconstructs (d value : Node) : Prop where
  nameless : d.child? "name" = none
  made : ∃ pattern sign, d.children = [pattern, sign, value] ∧ pattern.kind = "tuple_pattern" ∧
    sign.kind = "="
  expression : value.IsExpression

/-- How a declarator is made. -/
inductive IsDeclarator (d : Node) : Prop where
  | bare {name : Node} : d.children = [name] → name.field = some "name" → IsDeclarator d
  | initialised {name sign value : Node} : d.children = [name, sign, value] →
    name.field = some "name" → sign.kind = "=" → value.IsExpression → IsDeclarator d
  | tuple {value : Node} : d.Deconstructs value → IsDeclarator d

theorem IsDeclarator.name_or_deconstructs {d : Node} (made : d.IsDeclarator) :
    (∃ name, d.child? "name" = some name) ∨ ∃ value, d.Deconstructs value := by
  cases made with
  | @bare name children field => exact .inl ⟨name, by simp [child?, children, field]⟩
  | @initialised name _ _ children field => exact .inl ⟨name, by simp [child?, children, field]⟩
  | tuple deconstructs => exact .inr ⟨_, deconstructs⟩

theorem Deconstructs.declaredName? {d value : Node} (deconstructs : d.Deconstructs value) :
    d.declaredName? = if value.kind = "identifier" then some value else none := by
  obtain ⟨nameless, ⟨pattern, sign, children, isPattern, isSign⟩, _⟩ := deconstructs
  by_cases identifier : value.kind = "identifier"
  · simp [Node.declaredName?, nameless, children, isPattern, isSign, identifier]
  · simp [Node.declaredName?, nameless, children, isPattern, isSign, identifier]

theorem Deconstructs.initializer? {d value : Node} (deconstructs : d.Deconstructs value) :
    d.initializer? = if value.named then some value else none := by
  obtain ⟨_, ⟨pattern, sign, children, isPattern, isSign⟩, notSign, notClause⟩ := deconstructs
  simp [Node.initializer?, children, initializerAmong, isPattern, isSign, notSign, notClause]

/-- That a declarator takes apart the tuple that a variable holds. -/
structure DeconstructsVariable (source : List UInt8) (d : Node) (variable_ : String)
    (value : Node) : Prop where
  kind : d.kind = "variable_declarator"
  deconstructs : d.Deconstructs value
  identifier : value.kind = "identifier"
  named : value.named = true
  text : value.text source = variable_

theorem DeconstructsVariable.initialises {d value : Node}
    (apart : d.DeconstructsVariable source variable_ value) :
    d.Initialises source variable_ value where
  kind := apart.kind
  named := ⟨value, by rw [apart.deconstructs.declaredName?, if_pos apart.identifier], apart.text⟩
  value := by rw [apart.deconstructs.initializer?, if_pos apart.named]

/-- Without a name of its own, a declarator goes by the variable that it takes apart. -/
theorem Initialises.deconstructsVariable {d value : Node} (made : d.IsDeclarator)
    (undeclared : ∀ name, d.child? "name" = some name → name.text source ≠ variable_)
    (initialises : d.Initialises source variable_ value) :
    d.DeconstructsVariable source variable_ value := by
  obtain ⟨kind, ⟨name, named, text⟩, found⟩ := initialises
  rcases made.name_or_deconstructs with ⟨own, field⟩ | ⟨tuple, deconstructs⟩
  · rw [declaredName?, field] at named
    cases named
    exact absurd text (undeclared _ field)
  · rw [deconstructs.declaredName?, Option.ite_none_right_eq_some] at named
    rw [deconstructs.initializer?, Option.ite_none_right_eq_some] at found
    obtain ⟨identifier, itself⟩ := named
    obtain ⟨isNamed, same⟩ := found
    cases itself
    cases same
    exact ⟨kind, deconstructs, identifier, isNamed, text⟩

/-- A variable that no declarator of a method has for its name is not resolved, unless a declarator
    takes it apart: then its value is its own name. -/
theorem resolve_undeclared
    (made : ∀ d ∈ method.descendants, d.kind = "variable_declarator" → d.IsDeclarator)
    (undeclared : ∀ d ∈ method.descendants, d.kind = "variable_declarator" →
      ∀ name, d.child? "name" = some name → name.text source ≠ variable_)
    {argument : Node} (identifier : argument.kind = "identifier")
    (asked : argument.text source = variable_) :
    ((∀ d ∈ method.descendants, ∀ value, ¬ d.DeconstructsVariable source variable_ value) →
      method.localInitializer? source variable_ = none ∧
        (method.resolve source argument).text = "Unresolved variable: " ++ variable_) ∧
    ∀ d ∈ method.descendants, ∀ value, d.DeconstructsVariable source variable_ value →
      (∃ value, method.localInitializer? source variable_ = some value ∧
        value.text source = variable_) ∧
      (method.resolve source argument).text = variable_ := by
  subst asked
  have taken : ∀ d ∈ method.descendants, ∀ value,
      d.Initialises source (argument.text source) value →
        d.DeconstructsVariable source (argument.text source) value := by
    intro d inside value initialises
    exact initialises.deconstructsVariable (made d inside initialises.kind)
      (undeclared d inside initialises.kind)
  constructor
  · intro whole
    have nothing : method.localInitializer? source (argument.text source) = none :=
      localInitializer?_eq_none_iff.mpr fun d inside value initialises =>
        whole d inside value (taken d inside value initialises)
    rw [resolve_identifier_none identifier nothing]
    exact ⟨nothing, rfl⟩
  · intro d inside value apart
    have some_ : method.localInitializer? source (argument.text source) ≠ none := by
      intro nothing
      exact localInitializer?_eq_none_iff.mp nothing d inside value apart.initialises
    obtain ⟨first, found⟩ := Option.ne_none_iff_exists'.mp some_
    -- What is found may be from an earlier declarator; that one takes the variable apart as well.
    obtain ⟨d, inside, initialises⟩ := initialises_of_localInitializer? found
    have apart := taken d inside first initialises
    rw [resolve_identifier_some identifier found, literal?_identifier apart.identifier]
    exact ⟨⟨first, found, apart.text⟩, apart.text⟩

private def takenApart : Node := onLine "identifier" true none 19 20 []

private def takesApart : Node :=
  onLine "variable_declarator" true none 13 20
    [onLine "tuple_pattern" true none 13 18 [], onLine "=" false none 18 19 [], takenApart]

/-- The method `void M(){var (a,b)=p;A(q);}`. -/
private def takingApart : Node :=
  methodAround 27
    [takesApart,
      callOnLine none 21 25
        [onLine "argument" true none 23 24 [onLine "identifier" true none 23 24 []]]]

private theorem eq_takesApart {d : Node} (inside : d ∈ takingApart.descendants)
    (kind : d.kind = "variable_declarator") : d = takesApart := by
  have only : takingApart.descendants.filter (·.kind == "variable_declarator") = [takesApart] := by
    rw [descendants_eq]
    rfl
  rw [← List.mem_singleton, ← only, List.mem_filter]
  exact ⟨inside, beq_iff_eq.mpr kind⟩

private theorem takesApart_deconstructs : takesApart.Deconstructs takenApart :=
  ⟨rfl, ⟨_, _, rfl, rfl, rfl⟩, by decide, by decide⟩

private theorem takingApart_made : ∀ d ∈ takingApart.descendants,
    d.kind = "variable_declarator" → d.IsDeclarator ∧ d.child? "name" = none := by
  intro d inside kind
  rw [eq_takesApart inside kind]
  exact ⟨.tuple takesApart_deconstructs, rfl⟩

/-- Taking one variable apart does not resolve another. -/
theorem resolve_undeclared_beside_tuple :
    (∀ d ∈ takingApart.descendants, d.kind = "variable_declarator" →
      d.IsDeclarator ∧ d.child? "name" = none) ∧
    (takingApart.resolve (Utf8.encode "void M(){var (a,b)=p;A(q);}")
      (onLine "identifier" true none 23 24 [])).text = "Unresolved variable: q" := by
  have text : (onLine "identifier" true none 23 24 []).text
      (Utf8.encode "void M(){var (a,b)=p;A(q);}") = "q" := by decide
  refine ⟨takingApart_made, ((resolve_undeclared ?_ ?_ rfl text).1 ?_).2⟩
  · intro d inside kind
    exact (takingApart_made d inside kind).1
  · intro d inside kind name named
    rw [(takingApart_made d inside kind).2] at named
    cases named
  · intro d inside value apart
    obtain ⟨_, _, children, _⟩ := apart.deconstructs.made
    rw [eq_takesApart inside apart.kind] at children
    cases children
    exact absurd apart.text (by decide)

/-- A variable that is taken apart is resolved, and no declarator has its name. -/
theorem resolve_taken_apart :
    (∀ d ∈ takingApart.descendants, d.kind = "variable_declarator" →
      d.IsDeclarator ∧ d.child? "name" = none) ∧
    (takingApart.localInitializer? (Utf8.encode "void M(){var (a,b)=p;A(p);}") "p").isSome ∧
    (takingApart.resolve (Utf8.encode "void M(){var (a,b)=p;A(p);}")
      (onLine "identifier" true none 23 24 [])).text = "p" := by
  have found : takingApart.localInitializer? (Utf8.encode "void M(){var (a,b)=p;A(p);}") "p" =
      some takenApart := by
    rw [localInitializer?, descendants_eq]
    rfl
  have text : (onLine "identifier" true none 23 24 []).text
      (Utf8.encode "void M(){var (a,b)=p;A(p);}") = "p" := by decide
  refine ⟨takingApart_made, by rw [found]; rfl, ?_⟩
  rw [resolve_identifier_some rfl (text ▸ found)]
  decide

/-! ## Arguments -/

/-- The name of an argument with the colon behind it, if there is one. -/
inductive IsLabel : Option Node → List Node → Prop where
  | absent : IsLabel none []
  | present {name colon : Node} : name.kind = "identifier" → name.field = some "name" →
    name.named = true → colon.kind = ":" → colon.named = false →
    IsLabel (some name) [name, colon]

/-- How an argument is made: a label, words that say how it is passed, and its value. -/
structure IsArgument (argument : Node) (name : Option Node) (value : Node) : Prop where
  kind : argument.kind = "argument"
  named : argument.named = true
  made : ∃ label words, argument.children = label ++ (words ++ [value]) ∧ IsLabel name label ∧
    ∀ word ∈ words, word.kind ∈ ["ref", "out", "in"] ∧ word.named = false
  value_kind : value.kind ≠ "name_colon"

/-- That an argument is the first one of a call. -/
def IsFirst (argument call : Node) : Prop :=
  ∃ arguments before after, call.child? "arguments" = some arguments ∧
    arguments.children = before ++ argument :: after ∧ ∀ n ∈ before, n.kind ≠ "argument"

theorem IsLabel.filter {name : Option Node} {label : List Node} (isLabel : IsLabel name label) :
    (label.filter (·.named)).filter (·.kind != "name_colon") = name.toList := by
  cases isLabel with
  | absent => rfl
  | present kind _ named _ unnamed => simp [named, unnamed, kind]

/-- The expression of an argument is its value, or else its name. -/
theorem IsArgument.argumentExpression? {argument value : Node} {name : Option Node}
    (isArgument : IsArgument argument name value) :
    argument.argumentExpression? = if value.named then some value else name := by
  obtain ⟨kind, _, ⟨label, words, children, isLabel, unnamed⟩, other⟩ := isArgument
  have noWords : words.filter (·.named) = [] := by
    rw [List.filter_eq_nil_iff]
    intro word inside
    simp [(unnamed word inside).2]
  rw [Node.argumentExpression?, if_pos (by simpa using kind), namedChildren, children,
    List.filter_append, List.filter_append, isLabel.filter, List.filter_append, noWords,
    List.nil_append]
  cases named : value.named with
  | true => simp [named, other]
  | false => cases name <;> simp [named]

theorem IsFirst.firstArgument {argument call : Node} (first : argument.IsFirst call)
    (kind : argument.kind = "argument") (named : argument.named = true) :
    method.firstArgument source call =
      (argument.argumentExpression?.map (method.resolve source)).getD .missing := by
  obtain ⟨arguments, before, after, found, children, earlier⟩ := first
  have taken : arguments.namedChildren.find? (·.kind == "argument") = some argument := by
    rw [namedChildren, children, List.find?_filter, List.find?_eq_some_iff_append]
    refine ⟨by simp [kind, named], before, after, rfl, ?_⟩
    intro n inside
    simp [earlier n inside]
  cases expression : argument.argumentExpression? with
  | none => simp [Node.firstArgument, found, taken, expression]
  | some e => simp [Node.firstArgument, found, taken, expression]

/-- The first argument of a call is resolved by its value if that is a named node. If it is not, the
    argument is resolved by its label, and taken to be missing where it has none. -/
theorem firstArgument_of_argument {argument call value : Node} {name : Option Node}
    (first : argument.IsFirst call) (isArgument : IsArgument argument name value) :
    (value.named = true → method.firstArgument source call = method.resolve source value) ∧
    (value.named = false → method.firstArgument source call =
      (name.map (method.resolve source)).getD .missing) ∧
    (method.firstArgument source call = .missing ↔ value.named = false ∧ name = none) := by
  have taken : method.firstArgument source call =
      ((if value.named then some value else name).map (method.resolve source)).getD .missing := by
    rw [first.firstArgument isArgument.kind isArgument.named, isArgument.argumentExpression?]
  refine ⟨?_, ?_, ?_⟩
  · intro named
    simpa [named] using taken
  · intro unnamed
    simpa [unnamed] using taken
  · rw [taken]
    cases value.named with
    | true => simp [resolve_ne_missing]
    | false =>
        cases name with
        | none => simp
        | some x => simp [resolve_ne_missing]

/-- The call `A(this)` or `A(x:this)` at an offset, with the given label. -/
private def callWithThis (start stop : Nat) (label : List Node) : Node :=
  callOnLine none start stop
    [onLine "argument" true none (start + 2) (stop - 1)
      (label ++ [onLine "this" false none (stop - 5) (stop - 1) []])]

private def labelX : Node := onLine "identifier" true (some "name") 19 20 []

/-- The method `void M(){var x=1;A(x:this);}`. -/
private def labelledThis : Node :=
  methodAround 28
    [onLine "variable_declarator" true none 13 16
      [onLine "identifier" true (some "name") 13 14 [], onLine "=" false none 14 15 [],
        onLine "integer_literal" true none 15 16 []],
      callWithThis 17 26 [labelX, onLine ":" false none 20 21 []]]

private theorem callWithThis_first (start stop : Nat) (label : List Node) :
    (onLine "argument" true none (start + 2) (stop - 1)
      (label ++ [onLine "this" false none (stop - 5) (stop - 1) []])).IsFirst
        (callWithThis start stop label) :=
  ⟨_, [], [], rfl, rfl, by simp⟩

/-- The variable that has the name of a parameter is taken for the argument. -/
theorem firstArgument_of_argument_labelled_this :
    labelledThis.firstArgument (Utf8.encode "void M(){var x=1;A(x:this);}")
        (callWithThis 17 26 [labelX, onLine ":" false none 20 21 []]) =
      labelledThis.resolve (Utf8.encode "void M(){var x=1;A(x:this);}") labelX ∧
    labelledThis.resolve (Utf8.encode "void M(){var x=1;A(x:this);}") labelX = .literal "1" := by
  have found : labelledThis.localInitializer? (Utf8.encode "void M(){var x=1;A(x:this);}") "x" =
      some (onLine "integer_literal" true none 15 16 []) := by
    rw [localInitializer?, descendants_eq]
    rfl
  have text : labelX.text (Utf8.encode "void M(){var x=1;A(x:this);}") = "x" := by decide
  constructor
  · exact (firstArgument_of_argument (callWithThis_first 17 26 _)
      ⟨rfl, rfl, ⟨[labelX, onLine ":" false none 20 21 []], [], rfl, .present rfl rfl rfl rfl rfl,
        by simp⟩, by decide⟩).2.1 rfl
  · rw [resolve_identifier_some rfl (text ▸ found)]
    decide

/-- The argument of `A(this)` is passed over, as if there were none. -/
theorem firstArgument_this_missing :
    (onLine "argument" true none 11 15 [onLine "this" false none 11 15 []]).IsFirst
        (callWithThis 9 16 []) ∧
    IsArgument (onLine "argument" true none 11 15 [onLine "this" false none 11 15 []]) none
        (onLine "this" false none 11 15 []) ∧
    ((methodAround 18 [callWithThis 9 16 []]).firstArgument (Utf8.encode "void M(){A(this);}")
      (callWithThis 9 16 [])).text = "No parameter" :=
  ⟨callWithThis_first 9 16 [], ⟨rfl, rfl, ⟨[], [], rfl, .absent, by simp⟩, by decide⟩, by decide⟩

end Node

end CallOrigin
