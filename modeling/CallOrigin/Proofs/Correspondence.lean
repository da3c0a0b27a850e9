import CallOrigin.Proofs.CallSites
import Mathlib.Data.List.Forall2

/-! # Trees that read alike

Two nodes of two sources read alike if they are of one kind, play one part, have one text, and have
children that read alike in turn. What a call and its arguments are taken for depends on no more
than that, wherever the nodes stand in their sources.
-/

namespace CallOrigin

/-! ## Choosing from related lists -/

section
variable {α β γ δ : Type} {R : α → β → Prop} {P : γ → δ → Prop} {xs : List α} {ys : List β}

theorem rel_cases {a : Option α} {b : Option β} (related : Option.Rel R a b) :
    (a = none ∧ b = none) ∨ ∃ x y, a = some x ∧ b = some y ∧ R x y := by
  cases related with
  | none => exact .inl ⟨rfl, rfl⟩
  | some head => exact .inr ⟨_, _, rfl, rfl, head⟩

theorem rel_imp {Q : α → β → Prop} {a : Option α} {b : Option β} (weaker : ∀ a b, R a b → Q a b)
    (related : Option.Rel R a b) : Option.Rel Q a b := by
  cases related with
  | none => exact .none
  | some head => exact .some (weaker _ _ head)

theorem rel_find? {p : α → Bool} {q : β → Bool} (same : ∀ a b, R a b → p a = q b)
    (related : List.Forall₂ R xs ys) : Option.Rel R (xs.find? p) (ys.find? q) := by
  induction related with
  | nil => exact .none
  | @cons a b xs ys head rest ih =>
      rw [List.find?_cons, List.find?_cons, same a b head]
      cases q b with
      | true => exact .some head
      | false => exact ih

theorem rel_getLast? (related : List.Forall₂ R xs ys) : Option.Rel R xs.getLast? ys.getLast? := by
  rw [← List.head?_reverse, ← List.head?_reverse]
  have reversed := List.rel_reverse related
  generalize xs.reverse = xs, ys.reverse = ys at reversed
  cases reversed with
  | nil => exact .none
  | cons head rest => exact .some head

theorem rel_filter {p : α → Bool} {q : β → Bool} (same : ∀ a b, R a b → p a = q b)
    (related : List.Forall₂ R xs ys) : List.Forall₂ R (xs.filter p) (ys.filter q) := by
  refine List.rel_filter ?_ related
  intro a b head
  exact iff_of_eq (congrArg (· = true) (same a b head))

theorem rel_findSome? {f : α → Option γ} {g : β → Option δ}
    (same : ∀ a b, R a b → Option.Rel P (f a) (g b)) (related : List.Forall₂ R xs ys) :
    Option.Rel P (xs.findSome? f) (ys.findSome? g) := by
  induction related with
  | nil => exact .none
  | @cons a b xs ys head rest ih =>
      rw [List.findSome?_cons, List.findSome?_cons]
      rcases rel_cases (same a b head) with ⟨nothing, nothing'⟩ | ⟨c, d, left, right, related⟩
      · rw [nothing, nothing']
        exact ih
      · rw [left, right]
        exact .some related

theorem rel_bind {a : Option α} {b : Option β} {f : α → Option γ} {g : β → Option δ}
    (related : Option.Rel R a b) (same : ∀ a b, R a b → Option.Rel P (f a) (g b)) :
    Option.Rel P (a.bind f) (b.bind g) := by
  cases related with
  | none => exact .none
  | some head => exact same _ _ head

theorem rel_or {a a' : Option α} {b b' : Option β} (first : Option.Rel R a b)
    (second : Option.Rel R a' b') : Option.Rel R (a.or a') (b.or b') := by
  cases first with
  | none => exact second
  | some head => exact .some head

theorem rel_eq_iff {a b : Option α} : Option.Rel Eq a b ↔ a = b := by
  constructor
  · intro related
    cases related with
    | none => rfl
    | some same => exact congrArg some same
  · rintro rfl
    cases a with
    | none => exact .none
    | some _ => exact .some rfl

end

/-! ## Lists with something put in -/

/-- The second list is the first with further elements put in; the others are related in order. -/
inductive Interspersed {α β : Type} (R : α → β → Prop) (extra : β → Prop) :
    List α → List β → Prop where
  | nil : Interspersed R extra [] []
  | kept {a : α} {b : β} {as : List α} {bs : List β} : R a b → Interspersed R extra as bs →
    Interspersed R extra (a :: as) (b :: bs)
  | put {b : β} {as : List α} {bs : List β} : extra b → Interspersed R extra as bs →
    Interspersed R extra as (b :: bs)

namespace Interspersed

variable {α β γ δ : Type} {R : α → β → Prop} {extra : β → Prop} {P : γ → δ → Prop}
  {also : δ → Prop} {xs xs' : List α} {ys ys' : List β}

theorem of_forall₂ (related : List.Forall₂ R xs ys) : Interspersed R extra xs ys := by
  induction related with
  | nil => exact .nil
  | cons head _ ih => exact .kept head ih

theorem forall₂ (interspersed : Interspersed R extra xs ys) (nothing : ∀ b, ¬ extra b) :
    List.Forall₂ R xs ys := by
  induction interspersed with
  | nil => exact .nil
  | kept head _ ih => exact .cons head ih
  | put more => exact absurd more (nothing _)

theorem append (first : Interspersed R extra xs ys) (second : Interspersed R extra xs' ys') :
    Interspersed R extra (xs ++ xs') (ys ++ ys') := by
  induction first with
  | nil => exact second
  | kept head _ ih => exact .kept head ih
  | put more _ ih => exact .put more ih

theorem map {f : α → γ} {g : β → δ} (same : ∀ a b, R a b → P (f a) (g b))
    (more : ∀ b, extra b → also (g b)) (interspersed : Interspersed R extra xs ys) :
    Interspersed P also (xs.map f) (ys.map g) := by
  induction interspersed with
  | nil => exact .nil
  | kept head _ ih => exact .kept (same _ _ head) ih
  | put isMore _ ih => exact .put (more _ isMore) ih

theorem find? {p : α → Bool} {q : β → Bool} (same : ∀ a b, R a b → p a = q b)
    (skipped : ∀ b, extra b → q b = false) (interspersed : Interspersed R extra xs ys) :
    Option.Rel R (xs.find? p) (ys.find? q) := by
  induction interspersed with
  | nil => exact .none
  | @kept a b xs ys head rest ih =>
      rw [List.find?_cons, List.find?_cons, same a b head]
      cases q b with
      | true => exact .some head
      | false => exact ih
  | put more _ ih =>
      rw [List.find?_cons, skipped _ more]
      exact ih

/-- A search finds what corresponds, or it stops at an element that gives something else. -/
theorem findSome? {f : α → Option γ} {g : β → Option δ} {Q : α → β → δ → Prop}
    (same : ∀ a b, R a b → Option.Rel P (f a) (g b) ∨ ∃ d, g b = some d ∧ Q a b d)
    (skipped : ∀ b, extra b → g b = none) (interspersed : Interspersed R extra xs ys) :
    Option.Rel P (xs.findSome? f) (ys.findSome? g) ∨
      ∃ a ∈ xs, ∃ b ∈ ys, ∃ d, ys.findSome? g = some d ∧ Q a b d := by
  induction interspersed with
  | nil => exact .inl .none
  | @kept a b xs ys head rest ih =>
      rw [List.findSome?_cons, List.findSome?_cons]
      rcases same a b head with related | ⟨d, stops, other⟩
      · rcases rel_cases related with ⟨nothing, nothing'⟩ | ⟨c, d, left, right, related⟩
        · rw [nothing, nothing']
          refine ih.imp_right ?_
          rintro ⟨a, listed, b, listed', found⟩
          exact ⟨a, List.mem_cons_of_mem _ listed, b, List.mem_cons_of_mem _ listed', found⟩
        · rw [left, right]
          exact .inl (.some related)
      · rw [stops]
        exact .inr ⟨a, List.mem_cons_self, b, List.mem_cons_self, d, rfl, other⟩
  | put more _ ih =>
      rw [List.findSome?_cons, skipped _ more]
      refine ih.imp_right ?_
      rintro ⟨a, listed, b, listed', found⟩
      exact ⟨a, listed, b, List.mem_cons_of_mem _ listed', found⟩

theorem filterMap {f : α → Option γ} {g : β → Option δ}
    (same : ∀ a b, R a b → Option.Rel P (f a) (g b)) (skipped : ∀ b, extra b → g b = none)
    (interspersed : Interspersed R extra xs ys) :
    List.Forall₂ P (xs.filterMap f) (ys.filterMap g) := by
  induction interspersed with
  | nil => exact .nil
  | @kept a b xs ys head rest ih =>
      rcases rel_cases (same a b head) with ⟨nothing, nothing'⟩ | ⟨c, d, left, right, related⟩
      · rw [List.filterMap_cons_none nothing, List.filterMap_cons_none nothing']
        exact ih
      · rw [List.filterMap_cons_some left, List.filterMap_cons_some right]
        exact .cons related ih
  | put more _ ih =>
      rw [List.filterMap_cons_none (skipped _ more)]
      exact ih

end Interspersed

/-! ## The walk through related trees -/

/-- A relation of nodes that keeps their kinds and relates their children one by one, but for what
    is put in among them. -/
structure Congruent (R : Node → Node → Prop) (extra : Node → Prop) : Prop where
  kind : ∀ {n n'}, R n n' → n.kind = n'.kind
  children : ∀ {n n'}, R n n' → Interspersed R extra n.children n'.children
  leaf : ∀ {n}, extra n → n.children = []

namespace Occurrence

def method? (o : Occurrence) : Option Node := o.enclosing? ["method_declaration"]

/-- That occurrences are related, and the methods around them too. What is around a method itself
    makes no difference to the calls inside of it. -/
def Related (R : Node → Node → Prop) (o o' : Occurrence) : Prop :=
  R o.node o'.node ∧ (o.node.kind = "method_declaration" ∨ Option.Rel R o.method? o'.method?)

variable {R : Node → Node → Prop} {extra : Node → Prop} {o o' : Occurrence}
  {stack stack' : List Occurrence}

theorem method?_child (o : Occurrence) (child : Node) :
    method? ⟨child, o.node :: o.ancestors⟩ =
      if o.node.kind = "method_declaration" then some o.node else o.method? := by
  by_cases method : o.node.kind = "method_declaration"
  · simp [method?, enclosing?, method]
  · simp [method?, enclosing?, method]

theorem Related.children (congruent : Congruent R extra) (related : Related R o o') :
    Interspersed (Related R) (fun o => extra o.node) o.children o'.children := by
  obtain ⟨nodes, around⟩ := related
  refine (congruent.children nodes).map ?_ fun _ more => more
  intro child child' related
  refine ⟨related, .inr ?_⟩
  rw [method?_child, method?_child, ← congruent.kind nodes]
  split
  next => exact .some nodes
  next other => exact around.resolve_left other

/-- The walks through related stacks pass related occurrences, but for what is put in. -/
theorem interspersed_walk (congruent : Congruent R extra)
    (related : Interspersed (Related R) (fun o => extra o.node) stack stack') :
    Interspersed (Related R) (fun o => extra o.node) (walk stack) (walk stack') := by
  -- The induction follows the larger stack, since what is put in has no partner in the other.
  fun_induction walk stack' generalizing stack with
  | case1 =>
      cases related
      rw [walk]
      exact .nil
  | case2 o' rest' ih =>
      cases related with
      | kept head tail =>
          rw [walk]
          exact .kept head (ih ((head.children congruent).append tail))
      | put more tail =>
          have nothing : o'.children = [] := by
            rw [Occurrence.children, congruent.leaf more, List.map_nil]
          refine .put more (ih ?_)
          rwa [nothing, List.nil_append]

theorem related_walk (congruent : Congruent R fun _ => False)
    (related : List.Forall₂ (Related R) stack stack') :
    List.Forall₂ (Related R) (walk stack) (walk stack') :=
  (interspersed_walk congruent (.of_forall₂ related)).forall₂ fun _ more => more

end Occurrence

theorem interspersed_descendants {R : Node → Node → Prop} {extra : Node → Prop}
    (congruent : Congruent R extra) {n n' : Node} (related : R n n') :
    Interspersed R extra n.descendants n'.descendants := by
  have start : Occurrence.Related R n.occurrence n'.occurrence := ⟨related, .inr .none⟩
  exact (Occurrence.interspersed_walk congruent (.kept start .nil)).map
    (fun _ _ related => related.1) fun _ more => more

/-! ## Nodes that read alike -/

/-- That two nodes of two sources read alike. -/
inductive Node.Alike (s s' : List UInt8) : Node → Node → Prop where
  | intro {n n' : Node} (kind : n.kind = n'.kind) (named : n.named = n'.named)
      (field : n.field = n'.field) (text : n.text s = n'.text s')
      (children : List.Forall₂ (Node.Alike s s') n.children n'.children) : Node.Alike s s' n n'

namespace Node.Alike

variable {s s' : List UInt8} {n n' m m' : Node}

theorem kind (alike : Alike s s' n n') : n.kind = n'.kind := by
  cases alike
  assumption

theorem named (alike : Alike s s' n n') : n.named = n'.named := by
  cases alike
  assumption

theorem field (alike : Alike s s' n n') : n.field = n'.field := by
  cases alike
  assumption

theorem text (alike : Alike s s' n n') : n.text s = n'.text s' := by
  cases alike
  assumption

theorem children (alike : Alike s s' n n') :
    List.Forall₂ (Alike s s') n.children n'.children := by
  cases alike
  assumption

theorem congruent : Congruent (Alike s s') fun _ => False :=
  ⟨kind, fun alike => .of_forall₂ alike.children, False.elim⟩

theorem child? (alike : Alike s s' n n') (field : String) :
    Option.Rel (Alike s s') (n.child? field) (n'.child? field) := by
  refine rel_find? ?_ alike.children
  intro a b head
  rw [head.field]

theorem namedChildren (alike : Alike s s' n n') :
    List.Forall₂ (Alike s s') n.namedChildren n'.namedChildren :=
  rel_filter (fun _ _ head => head.named) alike.children

theorem findKind {xs ys : List Node} (kind : String) (related : List.Forall₂ (Alike s s') xs ys) :
    Option.Rel (Alike s s') (xs.find? (·.kind == kind)) (ys.find? (·.kind == kind)) := by
  refine rel_find? ?_ related
  intro a b head
  rw [head.kind]

/-! ### Names -/

theorem simpleName (alike : Alike s s' n n') : n.simpleName s = n'.simpleName s' := by
  unfold Node.simpleName
  rw [alike.kind, alike.text]
  split
  · rcases rel_cases (findKind "identifier" alike.children) with
      ⟨nothing, nothing'⟩ | ⟨a, b, left, right, names⟩
    · rw [nothing, nothing']
    · rw [left, right]
      exact names.text
  · rfl

theorem calledMember? (alike : Alike s s' n n') :
    Option.Rel (Alike s s') n.calledMember? n'.calledMember? := by
  unfold Node.calledMember?
  rw [alike.kind]
  split
  · refine rel_find? ?_ (List.rel_reverse alike.namedChildren)
    intro a b head
    rw [head.kind]
  · exact .some alike

theorem nameNode? (alike : Alike s s' n n') :
    Option.Rel (Alike s s') n.nameNode? n'.nameNode? := by
  unfold Node.nameNode?
  rw [alike.kind]
  split
  · exact alike.child? "name"
  · split
    · exact .some alike
    · exact .none

theorem calledName? (alike : Alike s s' n n') : n.calledName? s = n'.calledName? s' := by
  rw [calledName?_eq, calledName?_eq, ← rel_eq_iff]
  refine rel_bind (alike.child? "function") fun target target' targets => ?_
  refine rel_bind targets.calledMember? fun part part' parts => ?_
  refine rel_bind parts.nameNode? fun name name' names => ?_
  rw [names.simpleName, rel_eq_iff]

/-! ### Arguments -/

theorem unwrapped (alike : Alike s s' n n') : Alike s s' n.unwrapped n'.unwrapped := by
  unfold Node.unwrapped
  rw [alike.kind]
  split
  · have inside := alike.namedChildren
    generalize n.namedChildren = xs, n'.namedChildren = ys at inside
    cases inside with
    | nil => exact alike
    | cons head rest =>
        cases rest with
        | nil => exact head
        | cons => exact alike
  · exact alike

theorem literal? (alike : Alike s s' n n') : n.literal? = n'.literal? := by
  rw [Node.literal?, Node.literal?, alike.unwrapped.kind]

theorem literalValue (alike : Alike s s' n n') : n.literalValue s = n'.literalValue s' := by
  rw [Node.literalValue, Node.literalValue, alike.literal?, alike.unwrapped.text]

theorem declaredName? (alike : Alike s s' n n') :
    Option.Rel (Alike s s') n.declaredName? n'.declaredName? :=
  rel_or (alike.child? "name") (findKind "identifier" alike.children)

theorem any_text {a b : Option Node} (related : Option.Rel (Alike s s') a b) (text : String) :
    a.any (fun name => name.text s == text) = b.any (fun name => name.text s' == text) := by
  cases related with
  | none => rfl
  | some names => rw [Option.any_some, Option.any_some, names.text]

theorem initializerAmong {xs ys : List Node} (related : List.Forall₂ (Alike s s') xs ys) :
    ∀ equals, Option.Rel (Alike s s') (Node.initializerAmong equals xs)
      (Node.initializerAmong equals ys) := by
  induction related with
  | nil =>
      intro equals
      exact .none
  | @cons a b xs ys head rest ih =>
      intro equals
      simp only [Node.initializerAmong]
      rw [head.kind, head.named]
      split
      · exact rel_getLast? head.namedChildren
      · split
        · exact ih true
        · split
          · exact .some head
          · exact ih equals

theorem localInitializer? (alike : Alike s s' n n') (variable_ : String) :
    Option.Rel (Alike s s') (n.localInitializer? s variable_)
      (n'.localInitializer? s' variable_) := by
  refine rel_findSome? ?_ ((interspersed_descendants congruent alike).forall₂ fun _ more => more)
  intro a b declarators
  rw [declarators.kind, any_text declarators.declaredName?]
  split
  · exact initializerAmong declarators.children false
  · exact .none

theorem argumentExpression? (alike : Alike s s' n n') :
    Option.Rel (Alike s s') n.argumentExpression? n'.argumentExpression? := by
  unfold Node.argumentExpression?
  rw [alike.kind]
  split
  · refine rel_getLast? (rel_filter ?_ alike.namedChildren)
    intro a b head
    rw [head.kind]
  · exact .some alike

theorem resolve (methods : Alike s s' m m') (expressions : Alike s s' n n') :
    m.resolve s n = m'.resolve s' n' := by
  unfold Node.resolve
  rw [expressions.literal?, expressions.literalValue, expressions.kind, expressions.text]
  split
  · rfl
  · split
    · rcases rel_cases (methods.localInitializer? (n'.text s')) with
        ⟨nothing, nothing'⟩ | ⟨a, b, left, right, values⟩
      · simp only [nothing, nothing']
      · simp only [left, right, values.literal?, values.literalValue, values.text]
    · rfl

theorem firstArgument (methods : Alike s s' m m') (calls : Alike s s' n n') :
    m.firstArgument s n = m'.firstArgument s' n' := by
  have expressions : Option.Rel (Alike s s')
      ((n.child? "arguments").bind fun arguments =>
        (arguments.namedChildren.find? (·.kind == "argument")).bind Node.argumentExpression?)
      ((n'.child? "arguments").bind fun arguments =>
        (arguments.namedChildren.find? (·.kind == "argument")).bind Node.argumentExpression?) := by
    refine rel_bind (calls.child? "arguments") fun a b lists => ?_
    refine rel_bind (findKind "argument" lists.namedChildren) fun c d first => ?_
    exact first.argumentExpression?
  unfold Node.firstArgument
  simp only [Option.bind_eq_bind]
  rcases rel_cases expressions with ⟨nothing, nothing'⟩ | ⟨a, b, left, right, values⟩
  · rw [nothing, nothing']
  · rw [left, right]
    exact methods.resolve values

end Node.Alike

/-! ## Calls that correspond -/

/-- That two calls give the same names, and are related as nodes and by the methods around them. -/
structure NamedCall.Related (R : Node → Node → Prop) (c c' : NamedCall) : Prop where
  callee : c.callee = c'.callee
  methodName : c.methodName = c'.methodName
  call : R c.call c'.call
  method : R c.method c'.method

namespace NamedCall

variable {s s' : List UInt8} {R : Node → Node → Prop}

theorem Related.edge {c c' : NamedCall} (related : Related R c c') (file : String) :
    c.edge file = c'.edge file := by
  rw [NamedCall.edge, NamedCall.edge, related.callee, related.methodName]

theorem related_ofOccurrence? (kinds : ∀ {n n'}, R n n' → n.kind = n'.kind)
    (callees : ∀ {n n'}, R n n' → n.calledName? s = n'.calledName? s')
    (names : ∀ {n n'}, R n n' →
      Option.Rel (fun a b => a.text s = b.text s') (n.child? "name") (n'.child? "name"))
    {o o' : Occurrence} (related : Occurrence.Related R o o') :
    Option.Rel (Related R) (ofOccurrence? s o) (ofOccurrence? s' o') := by
  obtain ⟨nodes, around⟩ := related
  unfold ofOccurrence?
  rw [kinds nodes]
  split
  next invocation =>
    have methods : Option.Rel R o.method? o'.method? := by
      refine around.resolve_left ?_
      rw [kinds nodes, beq_iff_eq.mp invocation]
      decide
    simp only [Option.bind_eq_bind, callees nodes]
    refine rel_bind (R := Eq) (rel_eq_iff.mpr rfl) ?_
    rintro callee _ rfl
    refine rel_bind methods fun method method' related => ?_
    refine rel_bind (names related) fun name name' same => ?_
    exact .some ⟨rfl, same, nodes, related⟩
  next => exact .none

/-- That two calls of two sources read alike and stand in methods that do. -/
abbrev Alike (s s' : List UInt8) : NamedCall → NamedCall → Prop := Related (Node.Alike s s')

theorem alike_ofOccurrence? {o o' : Occurrence}
    (related : Occurrence.Related (Node.Alike s s') o o') :
    Option.Rel (Alike s s') (ofOccurrence? s o) (ofOccurrence? s' o') := by
  refine related_ofOccurrence? Node.Alike.kind Node.Alike.calledName? ?_ related
  intro n n' alike
  exact rel_imp (fun _ _ names => names.text) (alike.child? "name")

end NamedCall

end CallOrigin
