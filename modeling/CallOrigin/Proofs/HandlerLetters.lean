import CallOrigin.Proofs.Controls

/-! # Handlers by their letters

The search compares all of a control without regard to case: the tag, the name of the attribute and
the handler in quotes as well. So what it finds is bound to a value that has the letters of the
handler, and handlers of the same letters are bound to the same controls, whichever of them the
markup names. Only a handler whose letters can be written in one way is named as it stands.
-/

namespace CallOrigin.Text

/-! ## Letters -/

theorem eq_of_mem_letterVariants : ∀ row ∈ letterVariants, ∀ other ∈ letterVariants,
    ∀ n ∈ row, n ∈ other → row = other := by
  decide

theorem sameLetter_iff (a b : Char) :
    sameLetter a b = true ↔ (lowerChar a).toNat = (lowerChar b).toNat ∨
      ∃ row ∈ letterVariants, (lowerChar a).toNat ∈ row ∧ (lowerChar b).toNat ∈ row := by
  simp [sameLetter]

/-- No letter is a variant of two others that are different letters. -/
theorem sameLetter_trans {a b c : Char} (first : sameLetter a b = true)
    (second : sameLetter b c = true) : sameLetter a c = true := by
  rw [sameLetter_iff] at *
  rcases first with same | ⟨row, listed, inA, inB⟩
  · rwa [same]
  · rcases second with same | ⟨other, listed', inB', inC⟩
    · exact .inr ⟨row, listed, inA, same ▸ inB⟩
    · cases eq_of_mem_letterVariants row listed other listed' _ inB inB'
      exact .inr ⟨row, listed, inA, inC⟩

theorem sameLetter_congr {a b : Char} (same : sameLetter a b = true) (c : Char) :
    sameLetter a c = sameLetter b c := by
  rw [Bool.eq_iff_iff]
  constructor
  · exact sameLetter_trans (sameLetter_comm a b ▸ same)
  · exact sameLetter_trans same

namespace Matcher

theorem letters_congr {α : Type} {pattern other : List Char} (same : Spells pattern other) :
    letters (α := α) pattern = letters other := by
  induction same with
  | nil => rfl
  | cons first _ ih =>
      funext next at_
      simp only [letters, sameLetter_congr first, ih]

theorem spells_refl (text : List Char) : Spells text text := by
  refine List.forall₂_same.mpr fun c _ => ?_
  simp [sameLetter]

theorem Spells.of_append {first second text : List Char} (spells : Spells (first ++ second) text) :
    ∃ front back, text = front ++ back ∧ Spells first front ∧ Spells second back := by
  induction first generalizing text with
  | nil => exact ⟨[], text, rfl, .nil, spells⟩
  | cons p first ih =>
      cases spells with
      | cons same rest =>
          obtain ⟨front, back, rfl, fronts, backs⟩ := ih rest
          exact ⟨_ :: front, back, rfl, .cons same fronts, backs⟩

end Matcher

end CallOrigin.Text

namespace CallOrigin.Markup

open CallOrigin.Text CallOrigin.Text.Matcher

/-! ## Values as the markup writes them -/

/-- An attribute with exactly the given value: one of the names, and the value in quotes behind an
    equals sign. -/
def HasValue (names : List String) (value text : List Char) : Prop :=
  ∃ name ∈ names, ∃ spelt left right,
    text = spelt ++ left ++ '=' :: right ++ '"' :: value ++ ['"'] ∧ Spells name.toList spelt ∧
    AllOf isBlank left ∧ AllOf isBlank right

/-- The beginning of a control, up to the end of an attribute with exactly the given value. -/
def OpensWith (names : List String) (value text : List Char) : Prop :=
  ∃ head name before binding,
    text = head ++ name ++ before ++ binding ∧ Spells "<asp:".toList head ∧
    name ≠ [] ∧ AllOf isWord name ∧ AllOf inTag before ∧
    AtBoundary (name ++ before).getLast? binding.head? ∧ HasValue names value binding

/-- The text of a control whose opening tag has an attribute with exactly the given value, and what
    stands between its tags. -/
inductive Bears (names : List String) (value : List Char) :
    (whole : List Char) → (inner : List Char) → Prop where
  | alone {opening left : List Char} :
    OpensWith names value opening → AllOf inTag left →
    Bears names value (opening ++ left ++ ['/', '>']) []
  | filled {opening left inner closing : List Char} :
    OpensWith names value opening → AllOf inTag left → ClosingTag closing →
    Bears names value (opening ++ left ++ '>' :: inner ++ closing) inner

/-- A text has a control with exactly the given value for one of the attributes, and that control
    shows `text`. -/
def NamedIn (names : List String) (content value : List Char) (text : String) : Prop :=
  ∃ before whole inner after, content = before ++ whole ++ after ∧ Bears names value whole inner ∧
    text = String.ofList (if (trimBy isBlank inner).isEmpty then trimBy isBlank whole
      else trimBy isBlank inner)

/-- A handler is bound by a value of the same letters. -/
theorem Binds.hasValue {names : List String} {handler : String} {text : List Char}
    (binds : Binds names handler text) :
    ∃ value, Spells handler.toList value ∧ HasValue names value text := by
  obtain ⟨name, listed, spelt, left, right, quoted, rfl, spells, leftBlank, rightBlank, quotes⟩ :=
    binds
  obtain ⟨front, last, rfl, fronts, lasts⟩ := quotes.of_append
  cases (spells_sign_iff (by decide) (by decide) last).mp lasts
  cases fronts with
  | @cons _ c _ value opens values =>
      cases (sameLetter_sign (by decide) (by decide) c).mp opens
      exact ⟨value, values, name, listed, spelt, left, right, by simp, spells, leftBlank,
        rightBlank⟩

/-- A control ends with the slash that closes its one tag, or with its content and a closing tag. -/
theorem controlEnd_eq_some {at_ : Cursor} {f : Found} (found : controlEnd at_ = some f) :
    (at_.rest = ['/', '>'] ++ f.rest ∧ f.inner = none) ∨
    ∃ inner closing, at_.rest = '>' :: inner ++ closing ++ f.rest ∧ ClosingTag closing ∧
      f.inner = some inner := by
  obtain ⟨before, rest⟩ := at_
  cases rest with
  | nil => cases found
  | cons c rest =>
      by_cases bracket : c = '>'
      · subst bracket
        rw [controlEnd_bracket] at found
        obtain ⟨inner, closing, content, split, first⟩ := contentEnd_eq_some found
        exact .inr ⟨inner, closing, congrArg _ split, first.2.1, content⟩
      · rw [controlEnd_inTag before bracket] at found
        split at found
        · rename_i closed
          obtain ⟨rfl, next⟩ := closed
          obtain ⟨after, rfl⟩ := List.head?_eq_some_iff.mp next
          cases found
          exact .inl ⟨rfl, rfl⟩
        · cases found

/-- What is found at a place is a control with a value of the letters of the handler. -/
theorem bears_of_controlAt {events : List String} {handler : String} {at_ : Cursor} {f : Found}
    (found : controlAt events handler at_ = some f) :
    ∃ value whole, Spells handler.toList value ∧ at_.rest = whole ++ f.rest ∧
      Bears (spellings events) value whole (f.inner.getD []) := by
  obtain ⟨head, name, before, binding, there, split, headSpells, nonempty, word, inside, boundary,
    binds, found⟩ := controlAt_sound found
  obtain ⟨value, letters, valued⟩ := binds.hasValue
  obtain ⟨last, ⟨left, within, passes⟩, found⟩ := (leads_fewest _).sound found
  have opens : OpensWith (spellings events) value (head ++ name ++ before ++ binding) :=
    ⟨head, name, before, binding, rfl, headSpells, nonempty, word, inside, boundary, valued⟩
  rcases controlEnd_eq_some found with ⟨ahead, none⟩ | ⟨inner, closing, ahead, closes, content⟩
  · rw [none]
    refine ⟨value, _, letters, ?_, .alone opens within⟩
    rw [split, passes.rest_eq, ahead]
    simp
  · rw [content]
    refine ⟨value, _, letters, ?_, .filled opens within closes⟩
    rw [split, passes.rest_eq, ahead]
    simp

theorem namedIn_of_controlAt {events : List String} {handler : String} {before : Option Char}
    {content : List Char} {f : Found}
    (found : controlAt events handler ⟨before, content⟩ = some f) :
    ∃ value, Spells handler.toList value ∧ NamedIn (spellings events) content value
      (f.shown (content.take (content.length - f.rest.length))) := by
  obtain ⟨value, whole, letters, split, bears⟩ := bears_of_controlAt found
  have taken : content.take (content.length - f.rest.length) = whole := by
    rw [show content = whole ++ f.rest from split, take_append_before]
  exact ⟨value, letters, [], whole, _, f.rest, split, bears, by rw [taken]; rfl⟩

theorem namedIn_of_searchFrom {events : List String} {handler : String} {before : Option Char}
    {content : List Char} {text : String}
    (found : searchFrom events handler before content = some text) :
    ∃ value, Spells handler.toList value ∧ NamedIn (spellings events) content value text := by
  induction content generalizing before with
  | nil =>
      rw [searchFrom, Option.map_eq_some_iff] at found
      obtain ⟨f, found, rfl⟩ := found
      have named := namedIn_of_controlAt found
      rwa [List.take_nil] at named
  | cons c rest ih =>
      rw [searchFrom] at found
      split at found
      · rename_i f here
        cases found
        exact namedIn_of_controlAt here
      · obtain ⟨value, letters, skipped, whole, inner, after, rfl, bears, shown⟩ := ih found
        exact ⟨value, letters, c :: skipped, whole, inner, after, rfl, bears, shown⟩

/-! ## Handlers of the same letters -/

theorem controlAt_congr {handler other : String} (same : Spells handler.toList other.toList)
    (events : List String) : controlAt events handler = controlAt events other := by
  have quotes : Spells ('"' :: handler.toList ++ ['"']) ('"' :: other.toList ++ ['"']) :=
    List.rel_append (.cons (by decide) same) (spells_refl _)
  funext at_
  rw [controlAt, controlAt, letters_congr quotes]

theorem searchFrom_congr {handler other : String} (same : Spells handler.toList other.toList)
    (events : List String) (before : Option Char) (content : List Char) :
    searchFrom events handler before content = searchFrom events other before content := by
  induction content generalizing before with
  | nil => rw [searchFrom, searchFrom, controlAt_congr same]
  | cons c rest ih => rw [searchFrom, searchFrom, controlAt_congr same, ih]

/-! ## Handlers that can be written in one way -/

/-- The markup of a control that names just one handler. -/
def buttonFor (value : List Char) : List Char :=
  ['<', 'a', 's', 'p', ':', 'B', ' '] ++ "OnClick".toList ++ ['=', '"'] ++
    (value ++ ['"', '/', '>'])

theorem searchFrom_of_controlAt {events : List String} {handler : String} {before : Option Char}
    {content : List Char} (found : controlAt events handler ⟨before, content⟩ ≠ none) :
    searchFrom events handler before content ≠ none := by
  obtain ⟨f, found⟩ := Option.ne_none_iff_exists'.mp found
  cases content <;> simp [searchFrom, found]

theorem shownBy?_buttonFor {handler : String} {value : List Char}
    (letters : Spells handler.toList value) :
    shownBy? ["OnClick"] (String.ofList (buttonFor value)) handler ≠ none := by
  have quotes : Spells ('"' :: handler.toList ++ ['"']) ('"' :: value ++ ['"']) :=
    List.rel_append (.cons (by decide) letters) (spells_refl _)
  have binds : Binds (spellings ["OnClick"]) handler
      ("OnClick".toList ++ [] ++ '=' :: [] ++ ('"' :: value ++ ['"'])) :=
    ⟨"OnClick", List.mem_singleton_self _, "OnClick".toList, [], [], _, rfl, spells_refl _,
      List.forall_mem_nil _, List.forall_mem_nil _, quotes⟩
  have ended (last : Option Char) : fewest inTag controlEnd ⟨last, ['/', '>']⟩ ≠ none := by
    rw [show ['/', '>'] = ['/'] ++ '>' :: [] from rfl, fewest_controlEnd (by decide)]
    exact Option.some_ne_none _
  have word : AllOf isWord ['B'] := List.forall_mem_singleton.mpr (by decide)
  have inside : AllOf inTag [' '] := List.forall_mem_singleton.mpr (by decide)
  have boundary : AtBoundary (['B'] ++ [' ']).getLast?
      ("OnClick".toList ++ [] ++ '=' :: [] ++ ('"' :: value ++ ['"'])).head? := by
    change isWord ' ' ≠ isWord 'O'
    decide
  have opens : Spells "<asp:".toList ['<', 'a', 's', 'p', ':'] := spells_refl _
  have found := controlAt_complete opens (List.cons_ne_nil 'B' []) word inside boundary binds none
    ended
  rw [shownBy?, String.toList_ofList]
  apply searchFrom_of_controlAt
  simpa only [buttonFor, List.append_assoc, List.cons_append, List.nil_append] using found

theorem Bears.opening {names : List String} {value whole inner : List Char}
    (bears : Bears names value whole inner) :
    ∃ opening tail, whole = opening ++ tail ∧ OpensWith names value opening ∧ 2 ≤ tail.length := by
  cases bears with
  | @alone opening left opens =>
      exact ⟨opening, left ++ ['/', '>'], by simp, opens, by simp⟩
  | @filled opening left inner closing opens _ closes =>
      obtain ⟨start, rfl, _⟩ := closes.eq_append
      refine ⟨opening, left ++ '>' :: inner ++ (start ++ ['>']), by simp, opens, ?_⟩
      simp only [List.length_append, List.length_cons, List.length_nil]
      omega

/-- What stands in front of a value has the letters of the tag, a name and the letters of the
    attribute. If it is no longer than that, the attribute is right behind a name of one letter. -/
theorem OpensWith.front {value text : List Char} (opens : OpensWith ["OnClick"] value text) :
    ∃ front, text = front ++ (value ++ ['"']) ∧ 15 ≤ front.length ∧
      (front.length = 15 → (front.drop 6).head? ≠ some ' ') := by
  obtain ⟨head, name, before, binding, rfl, headSpells, nonempty, _, _, _, listed⟩ := opens
  obtain ⟨event, own, spelt, left, right, rfl, eventSpells, _, _⟩ := listed
  cases List.mem_singleton.mp own
  have headLength : head.length = 5 := headSpells.length_eq.symm
  have eventLength : spelt.length = 7 := eventSpells.length_eq.symm
  have nameLength : 0 < name.length := List.length_pos_iff.mpr nonempty
  have frontLength : (head ++ name ++ before ++ (spelt ++ left ++ '=' :: right ++ ['"'])).length =
      5 + name.length + before.length + (7 + left.length + (right.length + 1) + 1) := by
    simp only [List.length_append, List.length_cons, List.length_nil, headLength, eventLength]
  refine ⟨head ++ name ++ before ++ (spelt ++ left ++ '=' :: right ++ ['"']), by simp, by omega,
    fun shortest blank => ?_⟩
  have tagLength : (head ++ name ++ before).length = 6 := by
    simp only [List.length_append, headLength]
    omega
  rw [List.drop_left' tagLength] at blank
  have letters : Spells ('O' :: "nClick".toList) spelt := eventSpells
  cases letters with
  | cons first _ =>
      cases blank
      exact absurd first (by decide)

/-- The button names no other handler of the same length. -/
theorem eq_of_namedIn_buttonFor {value other : List Char} (lengths : other.length = value.length)
    {text : String} (named : NamedIn ["OnClick"] (buttonFor value) other text) : other = value := by
  obtain ⟨skipped, whole, inner, after, split, bears, _⟩ := named
  obtain ⟨opening, tail, rfl, opens, long⟩ := bears.opening
  obtain ⟨front, rfl, least, shortest⟩ := opens.front
  have parts : ['<', 'a', 's', 'p', ':', 'B', ' '] ++ "OnClick".toList ++ ['=', '"'] ++
        (value ++ ['"', '/', '>']) =
      skipped ++ front ++ (other ++ '"' :: (tail ++ after)) := by
    simpa only [buttonFor, List.append_assoc, List.cons_append, List.nil_append] using split
  have startLength :
      (['<', 'a', 's', 'p', ':', 'B', ' '] ++ "OnClick".toList ++ ['=', '"']).length = 16 := rfl
  have size := congrArg List.length parts
  rw [List.length_append, startLength] at size
  simp only [List.length_append, List.length_cons, List.length_nil, lengths] at size
  -- One character is left over: the values begin together, or what is in front is shortest.
  by_cases aligned : skipped.length + front.length = 16
  · have values := (List.append_inj parts (by rw [startLength, List.length_append, aligned])).2
    exact (List.append_inj values lengths.symm).1.symm
  · have none : skipped = [] := List.length_eq_zero_iff.mp (by omega)
    subst none
    have rest : front.drop 6 ≠ [] := by
      rw [← List.length_pos_iff, List.length_drop]
      omega
    refine absurd ?_ (shortest (by omega))
    rw [← List.head?_append_of_ne_nil _ rest, ← List.drop_append_of_le_length (by omega)]
    exact (congrArg (fun text => (text.drop 6).head?) parts).symm

/-- A control is found for a handler if one of its attributes has a value of the same letters, and
    that need not be the handler. Handlers of the same letters are bound to the same controls, in
    every markup. What is found names the handler as it stands, for all events and all markup,
    exactly if the letters of the handler can be written in one way only. -/
theorem shownBy?_by_letters (handler : String) :
    (∀ events content text, shownBy? events content handler = some text →
      ∃ value, Spells handler.toList value ∧
        NamedIn (spellings events) content.toList value text) ∧
    (∀ other : String, Spells handler.toList other.toList → ∀ events content,
      shownBy? events content other = shownBy? events content handler) ∧
    ((∀ events content text, shownBy? events content handler = some text →
      NamedIn (spellings events) content.toList handler.toList text) ↔
      ∀ value, Spells handler.toList value → value = handler.toList) := by
  refine ⟨fun events content text => namedIn_of_searchFrom, ?_, ?_, ?_⟩
  · intro other same events content
    exact (searchFrom_congr same events none content.toList).symm
  · intro exact_ value letters
    obtain ⟨text, found⟩ := Option.ne_none_iff_exists'.mp (shownBy?_buttonFor letters)
    have named := exact_ _ _ _ found
    rw [String.toList_ofList] at named
    exact (eq_of_namedIn_buttonFor letters.length_eq named).symm
  · intro single events content text found
    obtain ⟨value, letters, named⟩ := namedIn_of_searchFrom found
    rwa [single value letters] at named

/-- The kelvin sign is a variant of a letter, so a handler with that letter is bound where the sign
    is written, and never only where it is named itself. A digit can be written in one way. -/
theorem shownBy?_by_letters_kelvin :
    (shownBy? ["OnClick"] "<asp:B ONCLICK = \"o\u212A\"> Yes </asp:B>" "OK" = some "Yes" ∧
      ∃ value, Spells "OK".toList value ∧
        NamedIn (spellings ["OnClick"]) "<asp:B ONCLICK = \"o\u212A\"> Yes </asp:B>".toList value
          "Yes") ∧
    (Spells "OK".toList "o\u212A".toList ∧
      ¬ ∀ events content text, shownBy? events content "OK" = some text →
        NamedIn (spellings events) content.toList "OK".toList text) ∧
    ∀ events content text, shownBy? events content "1" = some text →
      NamedIn (spellings events) content.toList "1".toList text := by
  have found : shownBy? ["OnClick"] "<asp:B ONCLICK = \"o\u212A\"> Yes </asp:B>" "OK" =
      some "Yes" := by
    decide +kernel
  have same : Spells "OK".toList "o\u212A".toList :=
    .cons (by decide) (.cons (by decide) .nil)
  have single (value : List Char) (letters : Spells "1".toList value) : value = "1".toList :=
    (spells_sign_iff (by decide) (by decide) value).mp letters
  exact ⟨⟨found, (shownBy?_by_letters "OK").1 _ _ _ found⟩,
    ⟨same, fun named => absurd ((shownBy?_by_letters "OK").2.2.mp named _ same) (by decide)⟩,
    (shownBy?_by_letters "1").2.2.mpr single⟩

/-- A button that names one handler is shown for another, too, which it does not name. -/
theorem shownBy?_unnamed_handler :
    shownBy? ["OnClick"] "<asp:B OnClick=\"go\"/>" "Go" = some "<asp:B OnClick=\"go\"/>" ∧
      shownBy? ["OnClick"] "<asp:B OnClick=\"go\"/>" "go" = some "<asp:B OnClick=\"go\"/>" ∧
      ¬ ∃ text,
        NamedIn (spellings ["OnClick"]) "<asp:B OnClick=\"go\"/>".toList "Go".toList text := by
  refine ⟨by decide +kernel, by decide +kernel, ?_⟩
  rintro ⟨text, named⟩
  have markup : "<asp:B OnClick=\"go\"/>".toList = buttonFor "go".toList := by decide
  rw [markup] at named
  have same : "Go".toList = "go".toList := eq_of_namedIn_buttonFor (by decide) named
  exact absurd same (by decide)

end CallOrigin.Markup
