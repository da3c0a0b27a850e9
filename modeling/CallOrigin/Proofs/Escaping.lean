import CallOrigin.Proofs.Tags

/-! # Escaped text

Escaping keeps the tags of a text, but not all of the rest: a backslash before a bracket that begins
no tag is taken for an escape, and a single one at the end is doubled for good. `shown_escape_eq` says
what is shown then; a `Faithful` text is shown as it is.
-/

namespace CallOrigin.Console

/-! ## A walk through a text -/

/-- The steps in which a text is passed: a tag with the backslashes before it, a bracket that begins
    no tag with the one before it, or a single character. -/
inductive Walk : List Char → Prop
  | done : Walk []
  | tag {text after : List Char} (slashes : Nat)
      (own : ∀ other, tagText? (text ++ ']' :: other) = some text) (later : Walk after) :
      Walk (List.replicate slashes '\\' ++ '[' :: (text ++ ']' :: after))
  | bracket {rest : List Char} (noTag : tagText? rest = none) (later : Walk rest) :
      Walk ('\\' :: '[' :: rest)
  | char {c : Char} {rest : List Char} (noTag : tagBehind? (c :: rest) = none)
      (alone : c = '\\' → rest.head? ≠ some '[') (later : Walk rest) : Walk (c :: rest)

theorem walk (cs : List Char) : Walk cs := by
  induction size : cs.length using Nat.strongRecOn generalizing cs with
  | ind size ih =>
  subst size
  cases cs with
  | nil => exact .done
  | cons c rest =>
      cases tag : tagBehind? (c :: rest) with
      | some behind =>
          obtain ⟨slashes, text⟩ := behind
          obtain ⟨after, parts, own⟩ := tagBehind?_eq_some tag
          rw [parts]
          refine .tag slashes own (ih _ ?_ after rfl)
          rw [parts, List.length_append, List.length_cons, List.length_append, List.length_cons]
          omega
      | none =>
          by_cases pair : c = '\\' ∧ rest.head? = some '['
          · obtain ⟨rfl, bracket⟩ := pair
            obtain ⟨inside, rfl⟩ := List.head?_eq_some_iff.1 bracket
            have noTag : tagText? inside = none :=
              Option.map_eq_none_iff.1 (Option.map_eq_none_iff.1 tag)
            exact .bracket noTag (ih _ (by simp only [List.length_cons]; omega) inside rfl)
          · exact .char tag (fun slash bracket => pair ⟨slash, bracket⟩)
              (ih _ (Nat.lt_succ_self _) rest rfl)

section
variable {rest : List Char} (noTag : tagText? rest = none)
include noTag

theorem tagBehind?_bracket : tagBehind? ('[' :: rest) = none :=
  Option.map_eq_none_iff.2 noTag

theorem tagBehind?_slash_bracket : tagBehind? ('\\' :: '[' :: rest) = none :=
  Option.map_eq_none_iff.2 (tagBehind?_bracket noTag)

theorem piecesFrom_bracket (position : Nat) (plain : List Char) :
    piecesFrom position plain ('\\' :: '[' :: rest) =
      piecesFrom (position + 2) ('[' :: '\\' :: plain) rest := by
  rw [piecesFrom_of_none (tagBehind?_slash_bracket noTag),
    piecesFrom_of_none (tagBehind?_bracket noTag)]

theorem escapeFrom_bracket : escapeFrom ('\\' :: '[' :: rest) = '\\' :: '[' :: escapeFrom rest := by
  rw [escapeFrom_of_none (tagBehind?_slash_bracket noTag),
    escapeFrom_of_none (tagBehind?_bracket noTag)]

end

/-! ## Backslashes before brackets -/

/-- A text without the backslashes that stand before brackets which begin no tag. -/
def loosened : List Char → List Char
  | '\\' :: '[' :: rest =>
    if (tagText? rest).isNone then '[' :: loosened rest else '\\' :: '[' :: loosened rest
  | c :: rest => c :: loosened rest
  | [] => []

theorem loosened_cons {c : Char} {rest : List Char}
    (unescaped : c = '\\' → rest.head? ≠ some '[') : loosened (c :: rest) = c :: loosened rest := by
  rw [loosened]
  rintro after rfl rfl
  exact unescaped rfl rfl

theorem loosened_append {front : List Char} (noBracket : '[' ∉ front) (after : List Char) :
    loosened (front ++ ']' :: after) = front ++ ']' :: loosened after := by
  induction front with
  | nil => exact loosened_cons (by rintro ⟨⟩)
  | cons c front ih =>
      obtain ⟨_, noBracket⟩ := not_or.1 (mt List.mem_cons.2 noBracket)
      rw [List.cons_append, loosened_cons, ih noBracket, List.cons_append]
      rintro -
      cases front with
      | nil => simp
      | cons d front => exact fun first => noBracket (by simp [Option.some.inj first])

theorem bracket_not_mem_of_tagText? {cs text : List Char} (tag : tagText? cs = some text) :
    '[' ∉ text := by
  obtain ⟨c, more, _, rfl, _, begins, inside⟩ := tagText?_eq_some_iff.1 tag
  intro member
  rcases List.mem_cons.1 member with rfl | later
  · cases begins
  · cases inside _ later

/-- Tags, and the backslashes before them, stay. -/
theorem loosened_tag {text after : List Char} (tag : tagText? (text ++ ']' :: after) = some text)
    (slashes : Nat) :
    loosened (List.replicate slashes '\\' ++ '[' :: (text ++ ']' :: after)) =
      List.replicate slashes '\\' ++ '[' :: (text ++ ']' :: loosened after) := by
  have inside := loosened_append (bracket_not_mem_of_tagText? tag) after
  induction slashes with
  | zero => exact (loosened_cons (by rintro ⟨⟩)).trans (congrArg _ inside)
  | succ slashes ih =>
      rw [List.replicate_succ, List.cons_append, List.cons_append]
      cases slashes with
      | zero =>
          have begins : ¬ (tagText? (text ++ ']' :: after)).isNone = true := by simp [tag]
          rw [List.replicate_zero, List.nil_append, loosened, if_neg begins, inside,
            List.nil_append]
      | succ fewer =>
          rw [loosened_cons fun _ => ?_, ih]
          rw [List.replicate_succ]
          exact fun bracket => absurd (Option.some.inj bracket) (by decide)

theorem withoutEscapes_cons {c : Char} {rest : List Char}
    (unescaped : c = '\\' → rest.head? ≠ some '[') :
    withoutEscapes (c :: rest) = c :: withoutEscapes rest := by
  rw [withoutEscapes]
  rintro after rfl rfl
  exact unescaped rfl rfl

theorem withoutEscapes_append {front back : List Char}
    (apart : front.getLast? = some '\\' → back.head? ≠ some '[') :
    withoutEscapes (front ++ back) = withoutEscapes front ++ withoutEscapes back := by
  fun_induction withoutEscapes front with
  | case1 rest ih =>
      rw [List.cons_append, List.cons_append, withoutEscapes, ih, List.cons_append]
      intro last
      refine apart ?_
      rw [List.getLast?_cons, List.getLast?_cons, last]
      rfl
  | case2 c rest unlike ih =>
      rw [List.cons_append, withoutEscapes_cons, ih, List.cons_append]
      · intro last
        exact apart (by rw [List.getLast?_cons, last]; rfl)
      · rintro rfl
        cases rest with
        | nil => exact apart rfl
        | cons d rest => exact fun first => unlike rest rfl (by rw [Option.some.inj first])
  | case3 => rfl

/-- A stretch of text, left out where it is empty. -/
theorem showFrom_stretch {skipped : Bool} {chars : List Char} (empty : skipped = true → chars = [])
    (styles : List String) (rest : List Piece) :
    showFrom styles ((if skipped then [] else [.text chars]) ++ rest) =
      (showFrom styles rest).map ((withoutEscapes chars).filter (!isLeftOut ·) ++ ·) := by
  cases skipped with
  | true =>
      rw [empty rfl, if_pos rfl, List.nil_append]
      cases showFrom styles rest <;> rfl
  | false => rfl

theorem withoutEscapes_eq_of_not_mem {cs : List Char} (noBracket : '[' ∉ cs) :
    withoutEscapes cs = cs :=
  withoutEscapes_eq_self fun before after parts => noBracket (by simp [parts])

/-- A stretch may be cut wherever the cut is not between a backslash and a bracket. -/
theorem withoutEscapes_reverse_append {before more : List Char}
    (apart : before.head? = some '\\' → more.head? ≠ some '[') :
    withoutEscapes (before.reverse ++ more) =
      withoutEscapes before.reverse ++ withoutEscapes more :=
  withoutEscapes_append (by rwa [List.getLast?_reverse])

/-- A tag behind an odd number of backslashes is shown, behind half of them. -/
theorem showFrom_escaped_tag {text after : List Char}
    (tag : tagText? (text ++ ']' :: after) = some text) (slashes position : Nat)
    (before : List Char) (styles : List String) :
    showFrom styles (piecesFrom position before
        (List.replicate (2 * slashes + 1) '\\' ++ '[' :: (text ++ ']' :: after))) =
      (showFrom styles
        (piecesFrom (position + (2 * slashes + 1) + text.length + 2) [] after)).map
          ((withoutEscapes before.reverse ++ List.replicate slashes '\\' ++
            ('[' :: text ++ [']'])).filter (!isLeftOut ·) ++ ·) := by
  have odd : ((2 * slashes + 1) % 2 == 1) = true := by
    rw [beq_iff_eq]
    omega
  have half : (2 * slashes + 1) / 2 = slashes := by omega
  have slashesOnly : withoutEscapes (List.replicate slashes '\\') =
      List.replicate slashes '\\' := withoutEscapes_eq_of_not_mem (by simp)
  have tagOnly : withoutEscapes ('[' :: text ++ [']']) = '[' :: text ++ [']'] := by
    rw [List.cons_append, withoutEscapes_cons (by rintro ⟨⟩), withoutEscapes_eq_of_not_mem]
    simpa using bracket_not_mem_of_tagText? tag
  rw [piecesFrom_tag tag, odd, if_pos rfl, half, List.append_assoc, showFrom_stretch (by simp),
    showFrom_stretch (by simp), showFrom, slashesOnly, tagOnly]
  cases showFrom styles (piecesFrom (position + (2 * slashes + 1) + text.length + 2) [] after) with
  | error e => rfl
  | ok later => simp only [Except.map, List.filter_append, List.append_assoc]

/-- What is shown from a place on in an escaped text, behind the stretch `before`. No stretch is cut
    between a backslash and a bracket, so the escapes of the stretch are taken out by themselves. -/
theorem showFrom_escaped {tail : List Char} (plain : ∀ c ∈ tail, c = '\\') (cs : List Char)
    (position : Nat) (before : List Char) (styles : List String)
    (apart : before.head? = some '\\' → cs.head? ≠ some '[') :
    showFrom styles (piecesFrom position before (escapeFrom cs ++ tail)) =
      .ok ((withoutEscapes before.reverse ++ loosened cs ++ tail).filter (!isLeftOut ·)) := by
  induction walk cs generalizing position before with
  | done =>
      have noBracket : '[' ∉ tail := fun bracket => by cases plain _ bracket
      have first : tail.head? ≠ some '[' := fun bracket => noBracket (List.mem_of_head? bracket)
      have stretch := @showFrom_stretch (before.isEmpty && tail.isEmpty) (before.reverse ++ tail)
        (by simp) styles []
      rw [List.append_nil] at stretch
      rw [escapeFrom, List.nil_append, (tagFree_slashes plain).piecesFrom, stretch,
        withoutEscapes_reverse_append fun _ => first, withoutEscapes_eq_of_not_mem noBracket,
        showFrom, loosened]
      simp [Except.map]
  | @tag text after slashes own _ ih =>
      have parts : '[' :: (text ++ ']' :: (loosened after ++ tail)) =
          ('[' :: text ++ [']']) ++ (loosened after ++ tail) := by simp
      rw [escapeFrom_tag (own after), loosened_tag (own after)]
      simp only [List.append_assoc, List.cons_append]
      rw [showFrom_escaped_tag (own _), ih _ [] (by simp), parts]
      simp only [Except.map, List.filter_append, List.append_assoc, List.reverse_nil,
        withoutEscapes, List.nil_append]
  | @bracket rest noTag _ ih =>
      have own : withoutEscapes ('[' :: '\\' :: before).reverse =
          withoutEscapes before.reverse ++ ['['] := by
        rw [List.reverse_cons, List.reverse_cons, List.append_assoc]
        exact withoutEscapes_reverse_append fun _ => by decide
      have escaped := tagText?_escapeFrom noTag plain
      have begins : (tagText? rest).isNone = true := by rw [noTag]; rfl
      have next := ih (position + 2) ('[' :: '\\' :: before)
        fun slash => absurd (Option.some.inj slash) (by decide)
      rw [escapeFrom_bracket noTag, List.cons_append, List.cons_append, piecesFrom_bracket escaped,
        next, own, loosened, if_pos begins]
      simp only [List.append_assoc, List.cons_append, List.nil_append]
  | @char c rest noTag alone _ ih =>
      have own : withoutEscapes (c :: before).reverse = withoutEscapes before.reverse ++ [c] := by
        have single : withoutEscapes [c] = [c] := withoutEscapes_cons fun _ => by simp
        rw [List.reverse_cons, @withoutEscapes_reverse_append before [c] apart, single]
      have escaped := tagBehind?_escapeFrom noTag plain
      rw [escapeFrom_of_none noTag, List.cons_append] at escaped ⊢
      have next := ih (position + 1) (c :: before) fun slash => alone (Option.some.inj slash)
      rw [piecesFrom_of_none escaped, next, own, loosened_cons alone]
      simp only [List.append_assoc, List.cons_append, List.nil_append]

theorem take_append_congr {α : Type} {n : Nat} {xs ys zs ws : List α}
    (front : xs.take n = ys.take n) (back : zs.take n = ws.take n) :
    (xs ++ zs).take n = (ys ++ ws).take n := by
  have room : n - xs.length = n - ys.length := by
    have lengths := congrArg List.length front
    rw [List.length_take, List.length_take] at lengths
    omega
  have backs : zs.take (n - ys.length) = ws.take (n - ys.length) := by
    have cut := congrArg (List.take (n - ys.length)) back
    rwa [List.take_take, List.take_take, Nat.min_eq_left (Nat.sub_le _ _)] at cut
  rw [List.take_append, List.take_append, front, room, backs]

/-- Escaping leaves the last two characters of a text. -/
theorem take_two_escapeFrom (cs : List Char) :
    (escapeFrom cs).reverse.take 2 = cs.reverse.take 2 := by
  induction walk cs with
  | done => rw [escapeFrom]
  | @tag text after slashes own _ ih =>
      have parts : ∀ run other, (List.replicate run '\\' ++ '[' :: (text ++ ']' :: other)).reverse =
          other.reverse ++ ']' :: (text.reverse ++ '[' :: List.replicate run '\\') := by simp
      have long : 1 ≤ text.reverse.length := by
        obtain ⟨c, more, _, rfl, _⟩ := tagText?_eq_some_iff.1 (own after)
        simp
      rw [escapeFrom_tag (own after), parts, parts]
      refine take_append_congr ih ?_
      rw [List.take_succ_cons, List.take_succ_cons, List.take_append_of_le_length long,
        List.take_append_of_le_length long]
  | bracket noTag _ ih =>
      rw [escapeFrom_bracket noTag]
      simp only [List.reverse_cons, List.append_assoc]
      exact take_append_congr ih rfl
  | char noTag _ _ ih =>
      rw [escapeFrom_of_none noTag, List.reverse_cons, List.reverse_cons]
      exact take_append_congr ih rfl

theorem endsInOneSlash_eq (cs : List Char) :
    endsInOneSlash cs = endsInOneSlash (cs.reverse.take 2).reverse := by
  have ends : ∀ r : List Char, endsInOneSlash r.reverse =
      (['\\'].isPrefixOf r && !(['\\', '\\'].isPrefixOf r)) := by
    intro r
    exact congrArg (fun r => ['\\'].isPrefixOf r && !(['\\', '\\'].isPrefixOf r))
      (List.reverse_reverse r)
  rw [← List.reverse_reverse cs, ends, List.reverse_reverse, ends]
  rcases cs.reverse with _ | ⟨a, _ | ⟨b, r⟩⟩ <;> rfl

theorem endsInOneSlash_escapeFrom (cs : List Char) :
    endsInOneSlash (escapeFrom cs) = endsInOneSlash cs := by
  rw [endsInOneSlash_eq, take_two_escapeFrom, ← endsInOneSlash_eq]

/-- What is shown for an escaped text. -/
theorem shown_escape_eq (text : String) :
    shown (escape text) =
      .ok ((loosened text.toList ++ if endsInOneSlash text.toList then ['\\'] else []).filter
        (!isLeftOut ·)) := by
  have escaped : (escape text).toList =
      escapeFrom text.toList ++ if endsInOneSlash text.toList then ['\\'] else [] := by
    rw [escape, String.toList_ofList, endsInOneSlash_escapeFrom]
    split
    · rfl
    · rw [List.append_nil]
  have plain : ∀ c ∈ (if endsInOneSlash text.toList then ['\\'] else []), c = '\\' := by
    split
    · exact fun c => List.mem_singleton.1
    · exact fun c never => absurd never List.not_mem_nil
  rw [shown, pieces, escaped, showFrom_escaped plain _ 0 [] [] (by simp)]
  rfl

/-- That a console shows a text as it is once that is escaped: no backslash stands before a bracket
    that begins no tag, or alone at the end, and no character is left out. -/
structure Faithful (cs : List Char) : Prop where
  unescaped : ∀ before inside, cs = before ++ '\\' :: '[' :: inside → tagText? inside ≠ none
  unended : endsInOneSlash cs = false
  visible : ∀ c ∈ cs, isLeftOut c = false

theorem loosened_eq_self_iff {cs : List Char} :
    loosened cs = cs ↔
      ∀ before inside, cs = before ++ '\\' :: '[' :: inside → tagText? inside ≠ none := by
  fun_induction loosened cs with
  | case1 rest noTag _ =>
      refine ⟨fun same => ?_, fun tags => ?_⟩
      · cases (List.cons.inj same).1
      · exact absurd (Option.isNone_iff_eq_none.1 noTag) (tags [] rest rfl)
  | case2 rest begins ih =>
      rw [List.cons.injEq, List.cons.injEq]
      refine ⟨fun same before inside parts => ?_, fun tags => ?_⟩
      · rcases before with _ | ⟨c, _ | ⟨d, before⟩⟩
        · cases parts
          exact mt Option.isNone_iff_eq_none.2 begins
        · cases parts
        · cases parts
          exact ih.1 same.2.2 before inside rfl
      · refine ⟨rfl, rfl, ih.2 fun before inside parts => ?_⟩
        exact tags ('\\' :: '[' :: before) inside (by rw [parts]; rfl)
  | case3 c rest unlike ih =>
      rw [List.cons.injEq]
      refine ⟨fun same before inside parts => ?_, fun tags => ?_⟩
      · cases before with
        | nil =>
            cases parts
            exact absurd rfl (unlike inside rfl)
        | cons d before =>
            cases parts
            exact ih.1 same.2 before inside rfl
      · exact ⟨rfl, ih.2 fun before inside parts => tags (c :: before) inside (by rw [parts]; rfl)⟩
  | case4 => simp

theorem faithful_iff {cs : List Char} :
    Faithful cs ↔ loosened cs = cs ∧ endsInOneSlash cs = false ∧ ∀ c ∈ cs, isLeftOut c = false :=
  ⟨fun own => ⟨loosened_eq_self_iff.2 own.unescaped, own.unended, own.visible⟩,
    fun ⟨same, unended, visible⟩ => ⟨loosened_eq_self_iff.1 same, unended, visible⟩⟩

instance (cs : List Char) : Decidable (Faithful cs) :=
  decidable_of_iff (loosened cs = cs ∧ endsInOneSlash cs = false ∧ cs.all (!isLeftOut ·) = true)
    (by simp only [faithful_iff, List.all_eq_true, Bool.not_eq_true'])

theorem shown_escape_of_faithful {text : String} (faithful : Faithful text.toList) :
    shown (escape text) = .ok text.toList := by
  obtain ⟨same, unended, visible⟩ := faithful_iff.1 faithful
  rw [shown_escape_eq, same, unended, if_neg Bool.false_ne_true, List.append_nil,
    List.filter_eq_self.2]
  intro c member
  rw [visible c member]
  rfl

end CallOrigin.Console
