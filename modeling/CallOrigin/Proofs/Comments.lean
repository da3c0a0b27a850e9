import CallOrigin.Proofs.Arguments
import CallOrigin.Proofs.Correspondence

/-! # Comments among arguments and declarations

A tree stays the same but for comments put into its lists of arguments and its declarators, which
moves its nodes and changes the texts of those that now hold a comment. Its calls keep their names
and their methods. A call whose argument is a literal, a variable with a literal for its value or a
variable without a value keeps its argument too, unless a comment stands behind the equals sign of
a declarator: there a comment is taken for the value.
-/

namespace CallOrigin

namespace Node

structure IsComment (n : Node) : Prop where
  kind : n.kind = "comment"
  named : n.named = true
  field : n.field = none
  leaf : n.children = []

theorem IsComment.literal?_eq_none {n : Node} (comment : n.IsComment) : n.literal? = none := by
  rw [literal?_of_kind (by simp [comment.kind]), comment.kind]
  rfl

/-- Names and literals have no room for comments. -/
def IsAtomic (n : Node) : Prop :=
  n.field = some "name" ∨ n.kind = "identifier" ∨ n.kind = "generic_name" ∨
    (Literal.ofKind? n.kind).isSome

/-- That a node has its parts one by one, with room for comments between them. -/
def IsLoose (n : Node) : Prop := n.kind = "variable_declarator" ∨ n.kind = "argument_list"

instance (n : Node) : Decidable n.IsAtomic := inferInstanceAs (Decidable (_ ∨ _ ∨ _ ∨ _))

instance (n : Node) : Decidable n.IsLoose := inferInstanceAs (Decidable (_ ∨ _))

/-- That a node of a source is a node of another source with comments put in. -/
inductive Commented (s s' : List UInt8) : Node → Node → Prop where
  /-- Nothing is put in. -/
  | untouched {n n' : Node} : Alike s s' n n' → Commented s s' n n'
  /-- Comments may be put into its parts. -/
  | deeper {n n' : Node} (open_ : ¬ n.IsAtomic) (kind : n.kind = n'.kind)
      (named : n.named = n'.named) (field : n.field = n'.field)
      (children : List.Forall₂ (Commented s s') n.children n'.children) : Commented s s' n n'
  /-- Comments may be put between its parts as well. -/
  | among {n n' : Node} (open_ : ¬ n.IsAtomic) (loose : n.IsLoose) (kind : n.kind = n'.kind)
      (named : n.named = n'.named) (field : n.field = n'.field)
      (children : Interspersed (Commented s s') IsComment n.children n'.children) :
      Commented s s' n n'

namespace Commented

variable {s s' : List UInt8} {n n' m m' : Node}

theorem kind (commented : Commented s s' n n') : n.kind = n'.kind := by
  cases commented with
  | untouched alike => exact alike.kind
  | deeper => assumption
  | among => assumption

theorem named (commented : Commented s s' n n') : n.named = n'.named := by
  cases commented with
  | untouched alike => exact alike.named
  | deeper => assumption
  | among => assumption

theorem field (commented : Commented s s' n n') : n.field = n'.field := by
  cases commented with
  | untouched alike => exact alike.field
  | deeper => assumption
  | among => assumption

theorem alike (commented : Commented s s' n n') (atomic : n.IsAtomic) : Alike s s' n n' := by
  cases commented with
  | untouched alike => exact alike
  | deeper open_ => exact absurd atomic open_
  | among open_ => exact absurd atomic open_

theorem children (commented : Commented s s' n n') :
    Interspersed (Commented s s') IsComment n.children n'.children := by
  cases commented with
  | untouched alike => exact .of_forall₂ (alike.children.imp fun _ _ => .untouched)
  | deeper _ _ _ _ children => exact .of_forall₂ children
  | among _ _ _ _ _ children => exact children

/-- Nothing is put between the parts of other nodes. -/
theorem children_of_not_loose (commented : Commented s s' n n') (firm : ¬ n.IsLoose) :
    List.Forall₂ (Commented s s') n.children n'.children := by
  cases commented with
  | untouched alike => exact alike.children.imp fun _ _ => .untouched
  | deeper _ _ _ _ children => exact children
  | among _ loose => exact absurd loose firm

theorem congruent : Congruent (Commented s s') IsComment := ⟨kind, children, IsComment.leaf⟩

theorem child? (commented : Commented s s' n n') (field : String) :
    Option.Rel (Commented s s') (n.child? field) (n'.child? field) := by
  refine commented.children.find? ?_ ?_
  · intro a b head
    rw [head.field]
  · intro c comment
    simp [comment.field]

theorem findKind (commented : Commented s s' n n') {kind : String} (other : kind ≠ "comment") :
    Option.Rel (Commented s s') (n.children.find? (·.kind == kind))
      (n'.children.find? (·.kind == kind)) := by
  refine commented.children.find? ?_ ?_
  · intro a b head
    rw [head.kind]
  · intro c comment
    simpa [comment.kind] using other.symm

theorem namedChildren (commented : Commented s s' n n') (firm : ¬ n.IsLoose) :
    List.Forall₂ (Commented s s') n.namedChildren n'.namedChildren :=
  rel_filter (fun _ _ head => head.named) (commented.children_of_not_loose firm)

/-! ### Names -/

theorem rel_alike {a b : Option Node} (related : Option.Rel (Commented s s') a b)
    (atomic : ∀ n, a = some n → n.IsAtomic) : Option.Rel (Alike s s') a b := by
  rcases rel_cases related with ⟨rfl, rfl⟩ | ⟨x, y, rfl, rfl, commented⟩
  · exact .none
  · exact .some (commented.alike (atomic x rfl))

/-- What plays the part of a name is left as it is. -/
theorem nameChild? (commented : Commented s s' n n') :
    Option.Rel (Alike s s') (n.child? "name") (n'.child? "name") := by
  refine rel_alike (commented.child? "name") ?_
  intro name found
  exact .inl (by simpa using List.find?_some found)

theorem calledMember? (commented : Commented s s' n n') :
    Option.Rel (Commented s s') n.calledMember? n'.calledMember? := by
  unfold Node.calledMember?
  rw [← commented.kind]
  split
  next conditional =>
    have firm : ¬ n.IsLoose := by simp [IsLoose, beq_iff_eq.mp conditional]
    refine rel_find? ?_ (List.rel_reverse (commented.namedChildren firm))
    intro a b head
    rw [head.kind]
  next => exact .some commented

theorem nameNode? (commented : Commented s s' n n') :
    Option.Rel (Alike s s') n.nameNode? n'.nameNode? := by
  unfold Node.nameNode?
  rw [← commented.kind]
  split
  · exact commented.nameChild?
  · split
    next bare =>
      have atomic : n.IsAtomic := by
        rcases (Bool.or_eq_true _ _).mp bare with kind | kind
        · exact .inr (.inl (beq_iff_eq.mp kind))
        · exact .inr (.inr (.inl (beq_iff_eq.mp kind)))
      exact .some (commented.alike atomic)
    next => exact .none

theorem calledName? (commented : Commented s s' n n') : n.calledName? s = n'.calledName? s' := by
  rw [calledName?_eq, calledName?_eq, ← rel_eq_iff]
  refine rel_bind (commented.child? "function") fun target target' targets => ?_
  refine rel_bind targets.calledMember? fun part part' parts => ?_
  refine rel_bind parts.nameNode? fun name name' names => ?_
  rw [names.simpleName, rel_eq_iff]

theorem declaredName? (commented : Commented s s' n n') :
    Option.Rel (Alike s s') n.declaredName? n'.declaredName? := by
  refine rel_or commented.nameChild? (rel_alike (commented.findKind (by decide)) ?_)
  intro name found
  exact .inr (.inl (by simpa using List.find?_some found))

/-! ### Literals -/

theorem unwrapped (commented : Commented s s' n n') :
    Commented s s' n.unwrapped n'.unwrapped := by
  unfold Node.unwrapped
  rw [← commented.kind]
  split
  next wrapper =>
    have inside := commented.namedChildren (by simp [IsLoose, beq_iff_eq.mp wrapper])
    generalize n.namedChildren = xs, n'.namedChildren = ys at inside
    cases inside with
    | nil => exact commented
    | cons head rest =>
        cases rest with
        | nil => exact head
        | cons => exact commented
  next => exact commented

theorem literal? (commented : Commented s s' n n') : n.literal? = n'.literal? := by
  rw [Node.literal?, Node.literal?, commented.unwrapped.kind]

theorem literalValue (commented : Commented s s' n n') (isLiteral : n.literal?.isSome) :
    n.literalValue s = n'.literalValue s' := by
  have same := commented.unwrapped.alike (.inr (.inr (.inr isLiteral)))
  rw [Node.literalValue, Node.literalValue, commented.literal?, same.text]

end Commented

/-! ## Values of declarators -/

/-- That a list of nodes ends behind an equals sign, with no named node after the sign. -/
def EndsBehindSign (ns : List Node) : Prop :=
  ∃ before sign between, ns = before ++ sign :: between ∧ sign.kind = "=" ∧
    ∀ n ∈ between, n.named = false

theorem EndsBehindSign.concat {ns : List Node} {n : Node} (ends : EndsBehindSign ns)
    (unnamed : n.named = false) : EndsBehindSign (ns ++ [n]) := by
  obtain ⟨before, sign, between, rfl, isSign, allUnnamed⟩ := ends
  refine ⟨before, sign, between ++ [n], by simp, isSign, ?_⟩
  intro m inside
  rcases List.mem_append.mp inside with inside | inside
  · exact allUnnamed m inside
  · rwa [List.mem_singleton.mp inside]

/-- That a comment that was put into a declarator is now the first named node behind its equals
    sign. -/
structure Displaces (s s' : List UInt8) (d d' comment : Node) : Prop where
  commented : Commented s s' d d'
  declarator : d'.kind = "variable_declarator"
  isComment : comment.IsComment
  first : ∃ before after, d'.children = before ++ comment :: after ∧ EndsBehindSign before
  new : ∀ value, d.initializer? = some value → ¬ Commented s s' value comment

namespace Commented

variable {s s' : List UInt8} {n n' m m' : Node}

/-- The value found among the parts of a declarator is the same as before, or it is a comment
    that was put behind the sign. `passed` is what the search has gone past. -/
theorem initializerAmong {ns ns' : List Node}
    (interspersed : Interspersed (Commented s s') IsComment ns ns') :
    ∀ (equals : Bool) (passed : List Node), (equals = true → EndsBehindSign passed) →
      Option.Rel (Commented s s') (Node.initializerAmong equals ns)
          (Node.initializerAmong equals ns') ∨
        ∃ comment before after, Node.initializerAmong equals ns' = some comment ∧
          comment.IsComment ∧ passed ++ ns' = before ++ comment :: after ∧
          EndsBehindSign before := by
  induction interspersed with
  | nil =>
      intro equals passed _
      exact .inl .none
  | @kept a b xs ys head rest ih =>
      intro equals passed behind
      -- Where the search goes on, this node is one more that it has gone past.
      have onward : ∀ equals, (equals = true → EndsBehindSign (passed ++ [b])) →
          Option.Rel (Commented s s') (Node.initializerAmong equals xs)
              (Node.initializerAmong equals ys) ∨
            ∃ comment before after, Node.initializerAmong equals ys = some comment ∧
              comment.IsComment ∧ passed ++ b :: ys = before ++ comment :: after ∧
              EndsBehindSign before := by
        intro equals behind
        have further := ih equals (passed ++ [b]) behind
        rwa [List.append_assoc, List.singleton_append] at further
      simp only [Node.initializerAmong]
      rw [← head.kind, ← head.named]
      split
      next clause =>
        have firm : ¬ a.IsLoose := by simp [IsLoose, beq_iff_eq.mp clause]
        exact .inl (rel_getLast? (head.namedChildren firm))
      split
      next _ sign =>
        refine onward true fun _ => ⟨passed, b, [], rfl, ?_, by simp⟩
        rw [← head.kind, beq_iff_eq.mp sign]
      split
      next => exact .inl (.some head)
      next _ _ notTaken =>
        refine onward equals fun isBehind => (behind isBehind).concat ?_
        simpa [isBehind, head.named] using notTaken
  | @put c xs ys comment rest ih =>
      intro equals passed behind
      -- Before the sign a comment is passed over; behind it, it ends the search.
      cases equals with
      | true =>
          refine .inr ⟨c, passed, ys, ?_, comment, rfl, behind rfl⟩
          simp [Node.initializerAmong, comment.kind, comment.named]
      | false =>
          have further := ih false (passed ++ [c]) fun never => absurd never Bool.false_ne_true
          rw [List.append_assoc, List.singleton_append] at further
          simpa [Node.initializerAmong, comment.kind] using further

theorem initializer? (commented : Commented s s' n n')
    (declarator : n'.kind = "variable_declarator") :
    Option.Rel (Commented s s') n.initializer? n'.initializer? ∨
      ∃ comment, n'.initializer? = some comment ∧ Displaces s s' n n' comment := by
  have start : false = true → EndsBehindSign [] := fun never => absurd never Bool.false_ne_true
  rcases initializerAmong commented.children false [] start with
    related | ⟨comment, before, after, found, isComment, split, behind⟩
  · exact .inl related
  by_cases kept : ∃ value, n.initializer? = some value ∧ Commented s s' value comment
  · obtain ⟨value, own, same⟩ := kept
    rw [own, Node.initializer?, found]
    exact .inl (.some same)
  · refine .inr ⟨comment, found, commented, declarator, isComment,
      ⟨before, after, split, behind⟩, ?_⟩
    intro value own same
    exact kept ⟨value, own, same⟩

theorem localInitializer? (commented : Commented s s' m m') (variable_ : String) :
    Option.Rel (Commented s s') (m.localInitializer? s variable_)
        (m'.localInitializer? s' variable_) ∨
      ∃ d ∈ m.descendants, ∃ d' ∈ m'.descendants, ∃ comment,
        m'.localInitializer? s' variable_ = some comment ∧ Displaces s s' d d' comment := by
  refine (interspersed_descendants congruent commented).findSome? ?_ ?_
  · intro d d' declarators
    rw [declarators.kind, Alike.any_text declarators.declaredName?]
    split
    next asked =>
      exact declarators.initializer? (beq_iff_eq.mp ((Bool.and_eq_true _ _).mp asked).1)
    next => exact .inl .none
  · intro c comment
    simp [comment.kind]

/-! ## Arguments -/

theorem argumentExpression? (commented : Commented s s' n n') :
    Option.Rel (Commented s s') n.argumentExpression? n'.argumentExpression? := by
  unfold Node.argumentExpression?
  rw [← commented.kind]
  split
  next argument =>
    have firm : ¬ n.IsLoose := by simp [IsLoose, beq_iff_eq.mp argument]
    refine rel_getLast? (rel_filter ?_ (commented.namedChildren firm))
    intro a b head
    rw [head.kind]
  next => exact .some commented

/-- A value that is not the text of an expression stays, or a comment takes its place. -/
theorem resolve (methods : Commented s s' m m') (expressions : Commented s s' n n')
    (plain : ∀ text, m.resolve s n ≠ .expression text) :
    m'.resolve s' n' = m.resolve s n ∨
      ∃ d ∈ m.descendants, ∃ d' ∈ m'.descendants, ∃ comment, Displaces s s' d d' comment ∧
        m'.resolve s' n' = .expression (comment.text s') := by
  by_cases isLiteral : n.literal?.isSome
  · have isLiteral' : n'.literal?.isSome := expressions.literal? ▸ isLiteral
    rw [resolve_literal isLiteral, resolve_literal isLiteral', expressions.literalValue isLiteral]
    exact .inl rfl
  by_cases identifier : n.kind = "identifier"
  · have identifier' : n'.kind = "identifier" := expressions.kind ▸ identifier
    have text : n.text s = n'.text s' := (expressions.alike (.inr (.inl identifier))).text
    rcases methods.localInitializer? (n.text s) with
      related | ⟨d, inside, d', inside', comment, found, displaces⟩
    · rcases rel_cases related with ⟨nothing, nothing'⟩ | ⟨a, b, left, right, values⟩
      · rw [resolve_identifier_none identifier nothing,
          resolve_identifier_none identifier' (text ▸ nothing'), text]
        exact .inl rfl
      · have value := resolve_identifier_some identifier left
        by_cases valueLiteral : a.literal?.isSome
        · rw [value, resolve_identifier_some identifier' (text ▸ right), ← values.literal?,
            if_pos valueLiteral, if_pos valueLiteral, values.literalValue valueLiteral]
          exact .inl rfl
        · rw [if_neg valueLiteral] at value
          exact absurd value (plain _)
    · refine .inr ⟨d, inside, d', inside', comment, displaces, ?_⟩
      rw [resolve_identifier_some identifier' (text ▸ found), displaces.isComment.literal?_eq_none]
      rfl
  · exact absurd (resolve_other isLiteral identifier) (plain _)

theorem firstArgument (methods : Commented s s' m m') (calls : Commented s s' n n')
    (plain : ∀ text, m.firstArgument s n ≠ .expression text) :
    m'.firstArgument s' n' = m.firstArgument s n ∨
      ∃ d ∈ m.descendants, ∃ d' ∈ m'.descendants, ∃ comment, Displaces s s' d d' comment ∧
        m'.firstArgument s' n' = .expression (comment.text s') := by
  have expressions : Option.Rel (Commented s s')
      ((n.child? "arguments").bind fun arguments =>
        (arguments.namedChildren.find? (·.kind == "argument")).bind Node.argumentExpression?)
      ((n'.child? "arguments").bind fun arguments =>
        (arguments.namedChildren.find? (·.kind == "argument")).bind Node.argumentExpression?) := by
    refine rel_bind (calls.child? "arguments") fun a b lists => ?_
    refine rel_bind (R := Commented s s') ?_ fun c d first => first.argumentExpression?
    rw [Node.namedChildren, Node.namedChildren, List.find?_filter, List.find?_filter]
    refine lists.children.find? ?_ ?_
    · intro c d head
      rw [head.named, head.kind]
    · intro c comment
      simp [comment.kind]
  unfold Node.firstArgument at plain ⊢
  simp only [Option.bind_eq_bind] at plain ⊢
  rcases rel_cases expressions with ⟨nothing, nothing'⟩ | ⟨a, b, left, right, values⟩
  · rw [nothing, nothing']
    exact .inl rfl
  · rw [left] at plain
    rw [left, right]
    exact methods.resolve values plain

end Commented

end Node

/-! ## Calls -/

/-- What comments leave as it is of a call: its edge, and an endpoint that is a literal's value or
    the name of a variable without a value, unless a comment has come to stand in the place of a
    value. -/
structure NamedCall.Kept (s s' : List UInt8) (file : String) (c c' : NamedCall) : Prop where
  edge : c.edge file = c'.edge file
  endpoint : (∀ text, c.method.firstArgument s c.call ≠ .expression text) →
    (c'.apiCall s' file).endpoint = (c.apiCall s file).endpoint ∨
      ∃ d ∈ c.method.descendants, ∃ d' ∈ c'.method.descendants, ∃ comment,
        Node.Displaces s s' d d' comment ∧ (c'.apiCall s' file).endpoint = comment.text s'

/-- Comments put among arguments and in declarators do not change which calls a tree has, nor what
    is known of them, but where a comment is put in front of a declarator's value. -/
theorem NamedCall.all_commented {s s' : List UInt8} {tree tree' : Node}
    (commented : Node.Commented s s' tree tree') (file : String) :
    List.Forall₂ (Kept s s' file) (all s tree) (all s' tree') := by
  have start : Occurrence.Related (Node.Commented s s') tree.occurrence tree'.occurrence :=
    ⟨commented, .inr .none⟩
  have walks := Occurrence.interspersed_walk Node.Commented.congruent (.kept start .nil)
  have calls : List.Forall₂ (Related (Node.Commented s s')) (all s tree) (all s' tree') := by
    refine walks.filterMap ?_ ?_
    · intro o o' related
      refine related_ofOccurrence? Node.Commented.kind Node.Commented.calledName? ?_ related
      intro n n' nodes
      exact rel_imp (fun _ _ names => names.text) nodes.nameChild?
    · intro o comment
      simp [ofOccurrence?, comment.kind]
  refine calls.imp ?_
  intro c c' related
  refine ⟨related.edge file, ?_⟩
  intro plain
  rcases related.method.firstArgument related.call plain with
    same | ⟨d, inside, d', inside', comment, displaces, shown⟩
  · exact .inl (congrArg ArgumentValue.text same)
  · exact .inr ⟨d, inside, d', inside', comment, displaces, congrArg ArgumentValue.text shown⟩

/-! ## A variable and a call, with comments -/

namespace Node

private def commentAt (start : Nat) : Node := onLine "comment" true none start (start + 5) []

/-- The declarator `u=1`, with comments behind the name and behind the sign. -/
private def declaresU (stop sign value : Nat) (behindName behindSign : List Node) : Node :=
  onLine "variable_declarator" true none 13 stop
    (onLine "identifier" true (some "name") 13 14 [] ::
      (behindName ++ onLine "=" false none sign (sign + 1) [] ::
        (behindSign ++ [onLine "integer_literal" true none value (value + 1) []])))

/-- The call `A(u)`, with comments before the argument. -/
private def callsWithU (start stop argument : Nat) (comments : List Node) : Node :=
  callOnLine none start stop
    (comments ++ [onLine "argument" true none argument (argument + 1)
      [onLine "identifier" true none argument (argument + 1) []]])

/-- The method `void M(){var u=1;A(u);}`. -/
private def uncommented : Node :=
  methodAround 23 [declaresU 16 14 15 [] [], callsWithU 17 21 19 []]

private theorem comment_commentAt (start : Nat) : (commentAt start).IsComment :=
  ⟨rfl, rfl, rfl, rfl⟩

private theorem leaf_onLine {s s' : List UInt8} {kind : String} {named : Bool}
    {field : Option String} {start stop start' stop' : Nat}
    (text : (onLine kind named field start stop []).text s =
      (onLine kind named field start' stop' []).text s') :
    Commented s s' (onLine kind named field start stop [])
      (onLine kind named field start' stop' []) :=
  .untouched (.intro rfl rfl rfl text .nil)

private theorem deeper_onLine {s s' : List UInt8} {kind : String} {field : Option String}
    {start stop start' stop' : Nat} {ns ns' : List Node}
    (open_ : ¬ (onLine kind true field 0 0 []).IsAtomic)
    (children : List.Forall₂ (Commented s s') ns ns') :
    Commented s s' (onLine kind true field start stop ns)
      (onLine kind true field start' stop' ns') :=
  .deeper open_ rfl rfl rfl children

private theorem methodAround_commented {s s' : List UInt8} {stop stop' : Nat} {d d' c c' : Node}
    (name : (onLine "identifier" true (some "name") 5 6 []).text s =
      (onLine "identifier" true (some "name") 5 6 []).text s')
    (declarators : Commented s s' d d') (calls : Commented s s' c c') :
    Commented s s' (methodAround stop [d, c]) (methodAround stop' [d', c']) := by
  refine deeper_onLine (by decide) (.cons (leaf_onLine name) (.cons ?_ .nil))
  exact deeper_onLine (by decide) (.cons declarators (.cons calls .nil))

private theorem commented_behindName :
    Commented (Utf8.encode "void M(){var u=1;A(u);}")
      (Utf8.encode "void M(){var u/*c*/=1;A(/*d*/u);}") uncommented
      (methodAround 33
        [declaresU 21 19 20 [commentAt 14] [], callsWithU 22 31 29 [commentAt 24]]) := by
  refine methodAround_commented (by decide) ?_ ?_
  · refine .among (by decide) (by decide) rfl rfl rfl ?_
    exact .kept (leaf_onLine (by decide)) (.put (comment_commentAt 14)
      (.kept (leaf_onLine (by decide)) (.kept (leaf_onLine (by decide)) .nil)))
  · refine deeper_onLine (by decide) (.cons (leaf_onLine (by decide)) (.cons ?_ .nil))
    refine .among (by decide) (by decide) rfl rfl rfl (.put (comment_commentAt 24) (.kept ?_ .nil))
    exact deeper_onLine (by decide) (.cons (leaf_onLine (by decide)) .nil)

private theorem commented_behindSign :
    Commented (Utf8.encode "void M(){var u=1;A(u);}")
      (Utf8.encode "void M(){var u=/*c*/1;A(u);}") uncommented
      (methodAround 28 [declaresU 21 14 20 [] [commentAt 15], callsWithU 22 26 24 []]) := by
  refine methodAround_commented (by decide) ?_ ?_
  · refine .among (by decide) (by decide) rfl rfl rfl ?_
    exact .kept (leaf_onLine (by decide)) (.kept (leaf_onLine (by decide))
      (.put (comment_commentAt 15) (.kept (leaf_onLine (by decide)) .nil)))
  · refine deeper_onLine (by decide) (.cons (leaf_onLine (by decide)) (.cons ?_ .nil))
    refine deeper_onLine (by decide) (.cons ?_ .nil)
    exact deeper_onLine (by decide) (.cons (leaf_onLine (by decide)) .nil)

private theorem firstArgument_callsWithU {s : List UInt8} {m value : Node}
    {start stop argument : Nat}
    (text : (onLine "identifier" true none argument (argument + 1) []).text s = "u")
    (found : m.localInitializer? s "u" = some value) :
    m.firstArgument s (callsWithU start stop argument []) =
      if value.literal?.isSome then .literal (value.literalValue s)
      else .expression (value.text s) :=
  resolve_identifier_some rfl (text ▸ found)

end Node

/-- A comment behind the name of a variable and one in front of an argument. -/
theorem NamedCall.all_commented_behind_name :
    List.Forall₂ (Kept (Utf8.encode "void M(){var u=1;A(u);}")
        (Utf8.encode "void M(){var u/*c*/=1;A(/*d*/u);}") "m.cs")
      (all (Utf8.encode "void M(){var u=1;A(u);}") Node.uncommented)
      (all (Utf8.encode "void M(){var u/*c*/=1;A(/*d*/u);}")
        (Node.methodAround 33 [Node.declaresU 21 19 20 [Node.commentAt 14] [],
          Node.callsWithU 22 31 29 [Node.commentAt 24]])) :=
  all_commented Node.commented_behindName "m.cs"

/-- A comment in front of a variable's value is shown in the place of the value. -/
theorem NamedCall.endpoint_comment_before_value :
    Node.Commented (Utf8.encode "void M(){var u=1;A(u);}")
      (Utf8.encode "void M(){var u=/*c*/1;A(u);}") Node.uncommented
      (Node.methodAround 28
        [Node.declaresU 21 14 20 [] [Node.commentAt 15], Node.callsWithU 22 26 24 []]) ∧
    Node.uncommented.firstArgument (Utf8.encode "void M(){var u=1;A(u);}")
      (Node.callsWithU 17 21 19 []) = .literal "1" ∧
    (Node.methodAround 28 [Node.declaresU 21 14 20 [] [Node.commentAt 15],
        Node.callsWithU 22 26 24 []]).firstArgument (Utf8.encode "void M(){var u=/*c*/1;A(u);}")
      (Node.callsWithU 22 26 24 []) = .expression "/*c*/" := by
  have value : Node.uncommented.localInitializer? (Utf8.encode "void M(){var u=1;A(u);}") "u" =
      some (Node.onLine "integer_literal" true none 15 16 []) := by
    rw [Node.localInitializer?, Node.descendants_eq]
    rfl
  have comment : (Node.methodAround 28 [Node.declaresU 21 14 20 [] [Node.commentAt 15],
      Node.callsWithU 22 26 24 []]).localInitializer? (Utf8.encode "void M(){var u=/*c*/1;A(u);}")
        "u" = some (Node.commentAt 15) := by
    rw [Node.localInitializer?, Node.descendants_eq]
    rfl
  refine ⟨Node.commented_behindSign, ?_, ?_⟩
  · rw [Node.firstArgument_callsWithU (by decide) value]
    decide
  · rw [Node.firstArgument_callsWithU (by decide) comment]
    decide

end CallOrigin
