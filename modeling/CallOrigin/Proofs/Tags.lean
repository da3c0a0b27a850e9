import CallOrigin.Console.Markup

/-! # Tags in console markup

Markup in which no bracket begins a tag is shown as it stands, apart from backslashes before brackets
and from characters that a console leaves out, so only markup with a tag can fail to be shown. In
escaped text each tag is behind an odd number of backslashes, and escaping makes no tag where there
was none.
-/

namespace CallOrigin.Console

/-! ## Where a tag begins -/

def isBracket (c : Char) : Bool := c == ']' || c == '['

theorem head?_drop_takeWhile {α : Type} (p : α → Bool) (xs : List α) :
    (xs.drop (xs.takeWhile p).length).head? = xs.find? (!p ·) := by
  induction xs with
  | nil => rfl
  | cons x xs ih =>
      cases holds : p x with
      | true => simp [holds, ih]
      | false => simp [holds]

theorem tagText?_cons (c : Char) (rest : List Char) :
    tagText? (c :: rest) =
      if beginsTag c = true ∧ rest.find? isBracket = some ']' then
        some (c :: rest.takeWhile (!isBracket ·))
      else none := by
  have same : (fun c : Char => c != ']' && c != '[') = fun c => !isBracket c := by
    funext c
    rw [isBracket, Bool.not_or]
    rfl
  simp only [tagText?, same, head?_drop_takeWhile, Bool.not_not, Bool.and_eq_true, beq_iff_eq]

theorem takeWhile_bracket {more after : List Char} (inside : ∀ d ∈ more, isBracket d = false) :
    (more ++ ']' :: after).takeWhile (!isBracket ·) = more := by
  have closing : isBracket ']' = true := rfl
  rw [List.takeWhile_append_of_pos fun d member => by rw [inside d member]; rfl,
    List.takeWhile_cons_of_neg (by simp [closing]), List.append_nil]

theorem tagText?_eq_some_iff {cs text : List Char} :
    tagText? cs = some text ↔
      ∃ c more after, text = c :: more ∧ cs = text ++ ']' :: after ∧ beginsTag c = true ∧
        ∀ d ∈ more, isBracket d = false := by
  constructor
  · intro tag
    cases cs with
    | nil => cases tag
    | cons c rest =>
        rw [tagText?_cons, Option.ite_none_right_eq_some, List.find?_eq_some_iff_append] at tag
        obtain ⟨⟨begins, _, more, after, rfl, before⟩, tag⟩ := tag
        have inside : ∀ d ∈ more, isBracket d = false := fun d member => by
          simpa using before d member
        rw [takeWhile_bracket inside] at tag
        cases tag
        exact ⟨c, more, after, rfl, rfl, begins, inside⟩
  · rintro ⟨c, more, after, rfl, rfl, begins, inside⟩
    have first : (more ++ ']' :: after).find? isBracket = some ']' :=
      List.find?_eq_some_iff_append.2
        ⟨rfl, more, after, rfl, fun d member => by simp [inside d member]⟩
    rw [List.cons_append, tagText?_cons, if_pos ⟨begins, first⟩, takeWhile_bracket inside]

/-- A tag stays the same whatever stands behind it. -/
theorem tagText?_append_of_some {cs text : List Char} (tag : tagText? cs = some text)
    (after : List Char) : tagText? (text ++ ']' :: after) = some text := by
  obtain ⟨c, more, _, spelled, _, begins, inside⟩ := tagText?_eq_some_iff.1 tag
  exact tagText?_eq_some_iff.2 ⟨c, more, after, spelled, rfl, begins, inside⟩

/-- The text of the tag behind the backslashes at the front, with the number of these. -/
def tagBehind? : List Char → Option (Nat × List Char)
  | '\\' :: rest => (tagBehind? rest).map fun (slashes, text) => (slashes + 1, text)
  | '[' :: inside => (tagText? inside).map fun text => (0, text)
  | _ => none

theorem tagBehind?_slashes (slashes : Nat) (inside : List Char) :
    tagBehind? (List.replicate slashes '\\' ++ '[' :: inside) =
      (tagText? inside).map fun text => (slashes, text) := by
  induction slashes with
  | zero => rfl
  | succ slashes ih =>
      rw [List.replicate_succ, List.cons_append, tagBehind?, ih, Option.map_map]
      rfl

theorem tagBehind?_eq_some {cs : List Char} {slashes : Nat} {text : List Char}
    (tag : tagBehind? cs = some (slashes, text)) :
    ∃ after, cs = List.replicate slashes '\\' ++ '[' :: (text ++ ']' :: after) ∧
      ∀ other, tagText? (text ++ ']' :: other) = some text := by
  fun_induction tagBehind? cs generalizing slashes with
  | case1 rest ih =>
      obtain ⟨⟨fewer, text⟩, tag, same⟩ := Option.map_eq_some_iff.1 tag
      cases same
      obtain ⟨after, parts, stays⟩ := ih tag
      exact ⟨after, by rw [parts]; rfl, stays⟩
  | case2 inside =>
      obtain ⟨text, tag, same⟩ := Option.map_eq_some_iff.1 tag
      cases same
      obtain ⟨_, _, after, _, parts, _⟩ := tagText?_eq_some_iff.1 tag
      exact ⟨after, by rw [parts]; rfl, tagText?_append_of_some tag⟩
  | case3 => cases tag

/-! ## One step through a text -/

theorem replicate_append_drop_slashes (cs : List Char) :
    List.replicate (cs.takeWhile (· == '\\')).length '\\' ++
      cs.drop (cs.takeWhile (· == '\\')).length = cs := by
  induction cs with
  | nil => rfl
  | cons c cs ih =>
      by_cases slash : c = '\\'
      · subst slash
        rw [List.takeWhile_cons_of_pos rfl, List.length_cons, List.replicate_succ,
          List.drop_succ_cons, List.cons_append, ih]
      · rw [List.takeWhile_cons_of_neg (by simpa using slash)]
        rfl

theorem tagText?_eq_none_of_behind {cs inside : List Char} (noTag : tagBehind? cs = none)
    (opened : cs.drop (cs.takeWhile (· == '\\')).length = '[' :: inside) :
    tagText? inside = none := by
  have parts := replicate_append_drop_slashes cs
  rw [opened] at parts
  rw [← parts, tagBehind?_slashes, Option.map_eq_none_iff] at noTag
  exact noTag

theorem escapeFrom_of_none {c : Char} {rest : List Char} (noTag : tagBehind? (c :: rest) = none) :
    escapeFrom (c :: rest) = c :: escapeFrom rest := by
  rw [escapeFrom]
  split
  next inside opened => rw [tagText?_eq_none_of_behind noTag opened]
  next => rfl

theorem piecesFrom_of_none {c : Char} {rest : List Char} (noTag : tagBehind? (c :: rest) = none)
    (position : Nat) (plain : List Char) :
    piecesFrom position plain (c :: rest) = piecesFrom (position + 1) (c :: plain) rest := by
  rw [piecesFrom]
  split
  next inside opened => rw [tagText?_eq_none_of_behind noTag opened]
  next => rfl

section
variable {text after : List Char}

/-- A tag behind backslashes, as a step through a text takes it apart. -/
theorem tag_parts (slashes : Nat) {c : Char} {rest : List Char}
    (parts : List.replicate slashes '\\' ++ '[' :: (text ++ ']' :: after) = c :: rest) :
    ((c :: rest).takeWhile (· == '\\')).length = slashes ∧
      (c :: rest).drop slashes = '[' :: (text ++ ']' :: after) ∧
      rest.drop (slashes + text.length + 1) = after := by
  have run : (c :: rest).takeWhile (· == '\\') = List.replicate slashes '\\' := by
    rw [← parts, List.takeWhile_append_of_pos fun d member => by
      rw [List.eq_of_mem_replicate member]; rfl]
    simp
  refine ⟨by rw [run, List.length_replicate], ?_, ?_⟩
  · rw [← parts, List.drop_left' List.length_replicate]
  · have whole : c :: rest = List.replicate slashes '\\' ++ '[' :: (text ++ [']']) ++ after := by
      simp [← parts]
    have behind : (c :: rest).drop (slashes + text.length + 2) = after := by
      rw [whole, List.drop_left']
      simp only [List.length_append, List.length_replicate, List.length_cons, List.length_nil]
      omega
    exact behind

theorem escapeFrom_tag (tag : tagText? (text ++ ']' :: after) = some text) (slashes : Nat) :
    escapeFrom (List.replicate slashes '\\' ++ '[' :: (text ++ ']' :: after)) =
      List.replicate (2 * slashes + 1) '\\' ++ '[' :: (text ++ ']' :: escapeFrom after) := by
  cases parts : List.replicate slashes '\\' ++ '[' :: (text ++ ']' :: after) with
  | nil => simp at parts
  | cons c rest =>
      obtain ⟨run, opened, behind⟩ := tag_parts slashes parts
      rw [escapeFrom]
      simp only [run, opened, tag, behind, List.append_assoc, List.cons_append]

theorem piecesFrom_tag (tag : tagText? (text ++ ']' :: after) = some text) (slashes position : Nat)
    (plain : List Char) :
    piecesFrom position plain (List.replicate slashes '\\' ++ '[' :: (text ++ ']' :: after)) =
      (if plain.isEmpty then [] else [.text plain.reverse]) ++
        (if (List.replicate (slashes / 2) '\\').isEmpty then []
          else [.text (List.replicate (slashes / 2) '\\')]) ++
        (if slashes % 2 == 1 then .text ('[' :: text ++ [']'])
          else .tag (position + slashes) (Tag.ofText text)) ::
        piecesFrom (position + slashes + text.length + 2) [] after := by
  cases parts : List.replicate slashes '\\' ++ '[' :: (text ++ ']' :: after) with
  | nil => simp at parts
  | cons c rest =>
      obtain ⟨run, opened, behind⟩ := tag_parts slashes parts
      rw [piecesFrom]
      simp only [run, opened, tag, behind]

end

/-! ## Text without tags -/

/-- That no bracket begins a tag. -/
def TagFree (cs : List Char) : Prop :=
  ∀ before inside, cs = before ++ '[' :: inside → tagText? inside = none

/-- That a console shows every character as it stands: no bracket begins a tag or is behind a
    backslash, and no character is left out. -/
structure Verbatim (cs : List Char) : Prop where
  tagFree : TagFree cs
  unescaped : ∀ before after, cs ≠ before ++ '\\' :: '[' :: after
  visible : ∀ c ∈ cs, isLeftOut c = false

theorem TagFree.of_cons {c : Char} {cs : List Char} (free : TagFree (c :: cs)) : TagFree cs :=
  fun before inside parts => free (c :: before) inside (by rw [parts]; rfl)

theorem tagFree_append {front cs : List Char} (noBracket : '[' ∉ front) (free : TagFree cs) :
    TagFree (front ++ cs) := by
  intro before inside parts
  rcases List.append_eq_append_iff.1 parts with ⟨more, rfl, rest⟩ | ⟨more, rfl, rest⟩
  · exact free more inside rest
  · cases more with
    | nil => exact free [] inside rest.symm
    | cons c more =>
        cases rest
        simp at noBracket

theorem TagFree.tagBehind? {cs : List Char} (free : TagFree cs) : tagBehind? cs = none := by
  fun_induction Console.tagBehind? cs with
  | case1 rest ih => rw [ih free.of_cons]; rfl
  | case2 inside => rw [free [] inside rfl]; rfl
  | case3 => rfl

theorem TagFree.piecesFrom {cs : List Char} (free : TagFree cs) (position : Nat)
    (plain : List Char) :
    piecesFrom position plain cs =
      if plain.isEmpty && cs.isEmpty then [] else [.text (plain.reverse ++ cs)] := by
  induction cs generalizing position plain with
  | nil => simp [Console.piecesFrom]
  | cons c cs ih =>
      rw [piecesFrom_of_none free.tagBehind?, ih free.of_cons]
      simp

theorem shown_of_tagFree {markup : String} (free : TagFree markup.toList) :
    shown markup = .ok ((withoutEscapes markup.toList).filter (!isLeftOut ·)) := by
  rw [shown, pieces, free.piecesFrom]
  cases markup.toList with
  | nil => rfl
  | cons c cs => simp [showFrom, Except.map]

theorem withoutEscapes_eq_self {cs : List Char}
    (unescaped : ∀ before after, cs ≠ before ++ '\\' :: '[' :: after) :
    withoutEscapes cs = cs := by
  fun_induction withoutEscapes cs with
  | case1 rest => exact absurd rfl (unescaped [] rest)
  | case2 c rest _ ih =>
      rw [ih]
      intro before after parts
      exact unescaped (c :: before) after (by rw [parts]; rfl)
  | case3 => rfl

theorem shown_of_verbatim {markup : String} (verbatim : Verbatim markup.toList) :
    shown markup = .ok markup.toList := by
  rw [shown_of_tagFree verbatim.tagFree, withoutEscapes_eq_self verbatim.unescaped,
    List.filter_eq_self.2]
  intro c member
  rw [verbatim.visible c member]
  rfl

/-- Whether a character means nothing to a console but itself. -/
def isPlain (c : Char) : Bool := c != '[' && c != '\\' && !isLeftOut c

theorem isPlain_iff {c : Char} : isPlain c = true ↔ c ≠ '[' ∧ c ≠ '\\' ∧ isLeftOut c = false := by
  simp only [isPlain, Bool.and_eq_true, bne_iff_ne, Bool.not_eq_true', and_assoc]

theorem isPlain_of_high {c : Char} (high : 0x20 ≤ c.toNat) (noBracket : c ≠ '[') (noSlash : c ≠ '\\') :
    isPlain c = true := by
  have controls : ∀ n ∈ [7, 8, 11, 12, 13], n < 0x20 := by decide
  refine isPlain_iff.2 ⟨noBracket, noSlash, Bool.eq_false_iff.2 fun leftOut => ?_⟩
  exact absurd high (Nat.not_le.2 (controls _ (List.contains_iff_mem.1 leftOut)))

theorem verbatim_append {front cs : List Char} (all : front.all isPlain = true)
    (verbatim : Verbatim cs) :
    Verbatim (front ++ cs) where
  tagFree :=
    tagFree_append (fun bracket => (isPlain_iff.1 (List.all_eq_true.1 all _ bracket)).1 rfl)
      verbatim.tagFree
  unescaped := by
    intro before after parts
    have plain := List.all_eq_true.1 all
    rcases List.append_eq_append_iff.1 parts with ⟨more, rfl, rest⟩ | ⟨more, rfl, rest⟩
    · exact verbatim.unescaped more after rest
    · cases more with
      | nil => exact verbatim.unescaped [] after rest.symm
      | cons c more =>
          have slash : '\\' = c := (List.cons.inj rest).1
          exact (isPlain_iff.1 (plain c (by simp))).2.1 slash.symm
  visible := by
    intro c member
    rcases List.mem_append.1 member with front | inside
    · exact (isPlain_iff.1 (List.all_eq_true.1 all c front)).2.2
    · exact verbatim.visible c inside

theorem verbatim_of_plain {cs : List Char} (all : cs.all isPlain = true) : Verbatim cs := by
  have nothing : Verbatim [] := ⟨by simp [TagFree], by simp, by simp⟩
  simpa using verbatim_append all nothing

/-! ## Escaped text -/

theorem find?_bracket_replicate (slashes : Nat) (cs : List Char) :
    (List.replicate slashes '\\' ++ '[' :: cs).find? isBracket = some '[' := by
  refine List.find?_eq_some_iff_append.2 ⟨rfl, _, cs, rfl, ?_⟩
  intro c member
  rw [List.eq_of_mem_replicate member]
  rfl

theorem find?_bracket_escapeFrom (cs tail : List Char) :
    (escapeFrom cs ++ tail).find? isBracket = (cs ++ tail).find? isBracket := by
  induction cs with
  | nil => rw [escapeFrom]
  | cons c rest ih =>
      cases tag : tagBehind? (c :: rest) with
      | none => simp only [escapeFrom_of_none tag, List.cons_append, List.find?_cons, ih]
      | some behind =>
          obtain ⟨slashes, text⟩ := behind
          obtain ⟨after, parts, stays⟩ := tagBehind?_eq_some tag
          simp only [parts, escapeFrom_tag (stays after), List.append_assoc, List.cons_append,
            find?_bracket_replicate]

theorem find?_bracket_append_slashes (cs : List Char) {tail : List Char}
    (plain : ∀ c ∈ tail, c = '\\') : (cs ++ tail).find? isBracket = cs.find? isBracket := by
  have none_ : tail.find? isBracket = none := by
    rw [List.find?_eq_none]
    intro c member
    rw [plain c member]
    decide
  rw [List.find?_append, none_, Option.or_none]

theorem tagFree_slashes {tail : List Char} (plain : ∀ c ∈ tail, c = '\\') : TagFree tail := by
  intro before inside parts
  have bracket := plain '[' (by simp [parts])
  cases bracket

/-- Escaping makes no tag behind a bracket. The tail is what may be added at the end. -/
theorem tagText?_escapeFrom {cs tail : List Char} (noTag : tagText? cs = none)
    (plain : ∀ c ∈ tail, c = '\\') : tagText? (escapeFrom cs ++ tail) = none := by
  have behindSlash : ∀ rest, tagText? ('\\' :: rest) = none := by
    intro rest
    rw [tagText?_cons, if_neg]
    rintro ⟨begins, _⟩
    cases begins
  cases cs with
  | nil =>
      rw [escapeFrom, List.nil_append]
      cases tail with
      | nil => rfl
      | cons c tail =>
          rw [plain c List.mem_cons_self]
          exact behindSlash tail
  | cons c rest =>
      cases tag : tagBehind? (c :: rest) with
      | some behind =>
          obtain ⟨slashes, text⟩ := behind
          obtain ⟨after, parts, stays⟩ := tagBehind?_eq_some tag
          rw [parts, escapeFrom_tag (stays after)]
          exact behindSlash _
      | none =>
          rw [tagText?_cons, ite_eq_right_iff] at noTag
          rw [escapeFrom_of_none tag, List.cons_append, tagText?_cons, find?_bracket_escapeFrom,
            find?_bracket_append_slashes rest plain, ite_eq_right_iff]
          intro opens
          cases noTag opens

/-- Escaping makes no tag behind backslashes. -/
theorem tagBehind?_escapeFrom {cs tail : List Char} (noTag : tagBehind? cs = none)
    (plain : ∀ c ∈ tail, c = '\\') : tagBehind? (escapeFrom cs ++ tail) = none := by
  induction cs with
  | nil =>
      rw [escapeFrom, List.nil_append]
      exact (tagFree_slashes plain).tagBehind?
  | cons c rest ih =>
      rw [escapeFrom_of_none noTag, List.cons_append]
      by_cases slash : c = '\\'
      · subst slash
        rw [tagBehind?, Option.map_eq_none_iff] at noTag ⊢
        exact ih noTag
      by_cases bracket : c = '['
      · subst bracket
        rw [tagBehind?, Option.map_eq_none_iff] at noTag ⊢
        exact tagText?_escapeFrom noTag plain
      simp [tagBehind?, slash, bracket]

end CallOrigin.Console
