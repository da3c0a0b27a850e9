import CallOrigin.Proofs.JsonTexts

/-! # The report as JSON, read back

Every value is read back from its text, however deep it is nested, and the text is ASCII alone. So a
report loses nothing: its calls can be had back from it, one by one and in order. Only a number with
more digits than may be written, where that is limited, leaves calls without a report.
-/

namespace CallOrigin

namespace Json

/-! ## Values -/

mutual

/-- What a value says, whatever its layout. -/
def value : Json → Value
  | null => .null
  | number n => .number n
  | string text => .string text
  | array items => .array (values items)
  | object fields => .object (fieldValues fields)

def values : List Json → List Value
  | [] => []
  | item :: rest => item.value :: values rest

def fieldValues : List (String × Json) → List (String × Value)
  | [] => []
  | (key, value) :: rest => (key, value.value) :: fieldValues rest

end

theorem quote_append (text : String) (rest : List Char) :
    quote text ++ rest = '"' :: (text.toList.flatMap spell ++ '"' :: rest) := by
  simp [quote]

theorem skipBlanks_newLine (level : Nat) (rest : List Char) :
    skipBlanks (newLine level ++ rest) = skipBlanks rest := by
  have blanks : ∀ c ∈ newLine level, isBlank c = true := by
    intro c inside
    rcases List.mem_cons.mp inside with rfl | indented
    · rfl
    · rw [List.eq_of_mem_replicate indented]
      rfl
  exact List.dropWhile_append_of_pos blanks

theorem skipBlanks_cons {c : Char} (shown : isBlank c = false) (rest : List Char) :
    skipBlanks (c :: rest) = c :: rest := by
  simp [skipBlanks, shown]

theorem skipBlanks_quote (text : String) (rest : List Char) :
    skipBlanks (quote text ++ rest) = quote text ++ rest :=
  skipBlanks_cons (by decide) _

theorem endsNumber_cons {c : Char} (noDigit : c.isDigit = false) (noPoint : c ≠ '.')
    (noExponent : c ≠ 'e' ∧ c ≠ 'E') (rest : List Char) : EndsNumber (c :: rest) := by
  intro c' same
  cases same
  exact ⟨noDigit, noPoint, noExponent⟩

/-- A value begins with a character that is neither a blank nor a closing bracket. -/
theorem renderAt_eq_cons (level : Nat) (j : Json) :
    ∃ c cs, renderAt level j = c :: cs ∧ isBlank c = false ∧ c ≠ ']' ∧ c ≠ '\x7d' := by
  cases j with
  | null => exact ⟨_, _, rfl, by decide⟩
  | number n =>
      obtain ⟨c, cs, text, begins⟩ := toString_eq_cons n
      refine ⟨c, cs, text, ?_, begins.ne (by decide), begins.ne (by decide)⟩
      simp only [isBlank, Bool.or_eq_false_iff, beq_eq_false_iff_ne]
      exact ⟨⟨⟨begins.ne (by decide), begins.ne (by decide)⟩, begins.ne (by decide)⟩,
        begins.ne (by decide)⟩
  | string text => exact ⟨_, _, rfl, by decide⟩
  | array items =>
      cases items with
      | nil => exact ⟨_, _, rfl, by decide⟩
      | cons item rest => exact ⟨_, _, rfl, by decide⟩
  | object fields =>
      cases fields with
      | nil => exact ⟨_, _, rfl, by decide⟩
      | cons field rest => exact ⟨_, _, rfl, by decide⟩

theorem skipBlanks_renderAt (level : Nat) (j : Json) (rest : List Char) :
    skipBlanks (renderAt level j ++ rest) = renderAt level j ++ rest := by
  obtain ⟨c, cs, text, shown, _⟩ := renderAt_eq_cons level j
  rw [text, List.cons_append, skipBlanks_cons shown]

theorem readValue_number (n : Int) {rest : List Char} (ends : EndsNumber rest) :
    readValue ((toString n).toList ++ rest) = some (.number n, rest) := by
  have number := readNumber_toString n ends
  obtain ⟨c, cs, text, begins⟩ := toString_eq_cons n
  rw [text, List.cons_append] at number ⊢
  rw [readValue, number]
  · rfl
  all_goals
    intro _ same
    exact absurd (List.cons.inj same).1 (begins.ne (by decide))

theorem readValue_string (text : String) (rest : List Char) :
    readValue (quote text ++ rest) = some (.string text, rest) := by
  rw [quote_append, readValue, readString_spelling]
  rfl

theorem readKey_quote (key : String) (level : Nat) (j : Json) (rest : List Char) :
    readKey (quote key ++ ':' :: ' ' :: (renderAt level j ++ rest)) =
      some (key, renderAt level j ++ rest) := by
  have blank : skipBlanks (' ' :: (renderAt level j ++ rest)) = renderAt level j ++ rest :=
    skipBlanks_renderAt level j rest
  rw [quote_append, readKey, readString_spelling]
  simp only [Option.bind_eq_bind, Option.bind_some, skipBlanks_cons (c := ':') (by decide), blank]

/-- An array that does not close at once has items. -/
theorem readValue_array {rest : List Char} (more : (skipBlanks rest).head? ≠ some ']') :
    readValue ('[' :: rest) =
      (readItems (skipBlanks rest)).map fun (items, rest) => (.array items, rest) := by
  rw [readValue]
  split
  · rename_i closed
    rw [closed] at more
    exact absurd rfl more
  · rfl

/-- An object that does not close at once has fields. -/
theorem readValue_object {rest : List Char} (more : (skipBlanks rest).head? ≠ some '\x7d') :
    readValue ('\x7b' :: rest) =
      (readFields (skipBlanks rest)).map fun (fields, rest) => (.object fields, rest) := by
  rw [readValue]
  split
  · rename_i closed
    rw [closed] at more
    exact absurd rfl more
  · rfl

theorem readItems_last {cs after rest : List Char} {item : Value}
    (first : readValue cs = some (item, after)) (closed : skipBlanks after = ']' :: rest) :
    readItems cs = some ([item], rest) := by
  rw [readItems, first]
  simp only [Option.bind_eq_bind, Option.bind_some, closed]

theorem readItems_next {cs after rest more : List Char} {item : Value} {items : List Value}
    (first : readValue cs = some (item, after)) (comma : skipBlanks after = ',' :: rest)
    (shorter : rest.length < cs.length)
    (others : readItems (skipBlanks rest) = some (items, more)) :
    readItems cs = some (item :: items, more) := by
  rw [readItems, first]
  simp only [Option.bind_eq_bind, Option.bind_some, comma, shorter, dite_true, others]

theorem readFields_last {cs start after rest : List Char} {key : String} {value : Value}
    (name : readKey cs = some (key, start)) (first : readValue start = some (value, after))
    (shorter : start.length < cs.length) (closed : skipBlanks after = '\x7d' :: rest) :
    readFields cs = some ([(key, value)], rest) := by
  rw [readFields, name]
  simp only [Option.bind_eq_bind, Option.bind_some, shorter, dite_true, first, closed]

theorem readFields_next {cs start after rest more : List Char} {key : String} {value : Value}
    {fields : List (String × Value)} (name : readKey cs = some (key, start))
    (first : readValue start = some (value, after)) (shorter : start.length < cs.length)
    (comma : skipBlanks after = ',' :: rest) (shorter' : rest.length < cs.length)
    (others : readFields (skipBlanks rest) = some (fields, more)) :
    readFields cs = some ((key, value) :: fields, more) := by
  rw [readFields, name]
  simp only [Option.bind_eq_bind, Option.bind_some, shorter, dite_true, first, comma, shorter',
    others]

theorem endsNumber_newLine (level : Nat) (rest : List Char) : EndsNumber (newLine level ++ rest) :=
  endsNumber_cons (by decide) (by decide) (by decide) _

theorem endsNumber_comma (rest : List Char) : EndsNumber (',' :: rest) :=
  endsNumber_cons (by decide) (by decide) (by decide) rest

/- Reading follows the text as it was written, a value with whatever is behind it. The items and
   fields are stated with the first of them apart, as it has no comma in front. -/
mutual

theorem readValue_renderAt (level : Nat) (j : Json) {rest : List Char} (ends : EndsNumber rest) :
    readValue (renderAt level j ++ rest) = some (j.value, rest) := by
  cases j with
  | null => simp [renderAt, readValue, value]
  | number n => exact readValue_number n ends
  | string text => exact readValue_string text rest
  | array items =>
      cases items with
      | nil => simp [renderAt, readValue, value, values, skipBlanks, isBlank]
      | cons item more =>
          have items := readItems_renderItems (level + 1) level item more rest
          obtain ⟨c, cs, text, _, notClosed, _⟩ := renderAt_eq_cons (level + 1) item
          simp only [renderAt, List.cons_append, List.append_assoc, List.nil_append]
          rw [readValue_array, skipBlanks_newLine, skipBlanks_renderAt, items]
          · rfl
          · rw [skipBlanks_newLine, skipBlanks_renderAt, text]
            simpa using notClosed
  | object fields =>
      cases fields with
      | nil => simp [renderAt, readValue, value, fieldValues, skipBlanks, isBlank]
      | cons field more =>
          obtain ⟨key, value⟩ := field
          have fields := readFields_renderFields (level + 1) level key value more rest
          simp only [renderAt, List.cons_append, List.append_assoc, List.nil_append]
          rw [readValue_object, skipBlanks_newLine, skipBlanks_quote, fields]
          · rfl
          · rw [skipBlanks_newLine, skipBlanks_quote]
            simp [quote]
termination_by sizeOf j

theorem readItems_renderItems (level outer : Nat) (item : Json) (more : List Json)
    (rest : List Char) :
    readItems (renderAt level item ++ (renderItems level more ++ (newLine outer ++ ']' :: rest))) =
      some (values (item :: more), rest) := by
  cases more with
  | nil =>
      rw [renderItems, List.nil_append]
      refine readItems_last (readValue_renderAt level item (endsNumber_newLine outer _)) ?_
      rw [skipBlanks_newLine, skipBlanks_cons (by decide)]
  | cons next more =>
      have others := readItems_renderItems level outer next more rest
      simp only [renderItems, List.cons_append, List.append_assoc]
      refine readItems_next (readValue_renderAt level item (endsNumber_comma _))
        (skipBlanks_cons (by decide) _) ?_ ?_
      · simp only [List.length_append, List.length_cons]
        omega
      · rw [skipBlanks_newLine, skipBlanks_renderAt, others]
termination_by sizeOf item + sizeOf more

theorem readFields_renderFields (level outer : Nat) (key : String) (value : Json)
    (more : List (String × Json)) (rest : List Char) :
    readFields (quote key ++ ':' :: ' ' :: (renderAt level value ++
        (renderFields level more ++ (newLine outer ++ '\x7d' :: rest)))) =
      some (fieldValues ((key, value) :: more), rest) := by
  cases more with
  | nil =>
      rw [renderFields, List.nil_append]
      refine readFields_last (readKey_quote key level value _)
        (readValue_renderAt level value (endsNumber_newLine outer _)) ?_ ?_
      · simp only [List.length_append, List.length_cons]
        omega
      · rw [skipBlanks_newLine, skipBlanks_cons (by decide)]
  | cons next more =>
      obtain ⟨nextKey, nextValue⟩ := next
      have others := readFields_renderFields level outer nextKey nextValue more rest
      simp only [renderFields, List.cons_append, List.append_assoc]
      refine readFields_next (readKey_quote key level value _)
        (readValue_renderAt level value (endsNumber_comma _)) ?_ (skipBlanks_cons (by decide) _)
        ?_ ?_
      · simp only [List.length_append, List.length_cons]
        omega
      · simp only [List.length_append, List.length_cons]
        omega
      · rw [skipBlanks_newLine, skipBlanks_quote, others]
termination_by sizeOf value + sizeOf more

end

def Ascii (cs : List Char) : Prop := ∀ c ∈ cs, c.toNat < 0x80

@[simp]
theorem ascii_nil : Ascii [] := nofun

@[simp]
theorem ascii_cons (c : Char) (cs : List Char) : Ascii (c :: cs) ↔ c.toNat < 0x80 ∧ Ascii cs :=
  List.forall_mem_cons

@[simp]
theorem ascii_append (cs ds : List Char) : Ascii (cs ++ ds) ↔ Ascii cs ∧ Ascii ds :=
  List.forall_mem_append

theorem ascii_codeEscape {n : Nat} (small : n < 0x10000) : Ascii (codeEscape n) := by
  have table : ∀ d < 16, (Nat.digitChar d).toNat < 0x80 := by decide
  have digit (m : Nat) := table (m % 16) (Nat.mod_lt m (by decide))
  rw [codeEscape_eq small]
  simp [paddedDigits, digit]

theorem Spelt.ascii {c : Char} {text : List Char} (spelt : Spelt c text) : Ascii text := by
  cases spelt with
  | marked _ ascii => simp [ascii]
  | plain _ ascii => simp [ascii]
  | code narrow => exact ascii_codeEscape narrow
  | pair wide =>
      obtain ⟨high, low⟩ := Utf16.halves_lt c
      rw [ascii_append]
      exact ⟨ascii_codeEscape high, ascii_codeEscape low⟩

theorem ascii_quote (text : String) : Ascii (quote text) := by
  have body : Ascii (text.toList.flatMap spell) := by
    intro x inside
    obtain ⟨c, _, spelt⟩ := List.mem_flatMap.mp inside
    exact (spelt_spell c).ascii x spelt
  simp [quote, body]

theorem ascii_newLine (level : Nat) : Ascii (newLine level) := by
  have blanks : Ascii (List.replicate (2 * level) ' ') := by
    intro c inside
    rw [List.eq_of_mem_replicate inside]
    decide
  simp [newLine, blanks]

theorem ascii_toString (n : Int) : Ascii (toString n).toList := by
  have digits (m : Nat) : Ascii (Nat.toDigits 10 m) := by
    intro c inside
    have digit := Nat.isDigit_of_mem_toDigits (by decide) (by decide) inside
    exact Nat.lt_of_le_of_lt (Char.isDigit_iff_toNat.mp digit).2 (by decide)
  rw [toList_toString]
  split
  · exact digits _
  · simp [digits]

mutual

theorem ascii_renderAt (level : Nat) (j : Json) : Ascii (renderAt level j) := by
  cases j with
  | null => simp [renderAt]
  | number n => exact ascii_toString n
  | string text => exact ascii_quote text
  | array items =>
      cases items with
      | nil => simp [renderAt]
      | cons item more =>
          simp [renderAt, ascii_newLine, ascii_renderAt (level + 1) item,
            ascii_renderItems (level + 1) more]
  | object fields =>
      cases fields with
      | nil => simp [renderAt]
      | cons field more =>
          obtain ⟨key, value⟩ := field
          simp [renderAt, ascii_newLine, ascii_quote, ascii_renderAt (level + 1) value,
            ascii_renderFields (level + 1) more]
termination_by sizeOf j

theorem ascii_renderItems (level : Nat) (items : List Json) : Ascii (renderItems level items) := by
  cases items with
  | nil => simp [renderItems]
  | cons item more =>
      simp [renderItems, ascii_newLine, ascii_renderAt level item, ascii_renderItems level more]
termination_by sizeOf items

theorem ascii_renderFields (level : Nat) (fields : List (String × Json)) :
    Ascii (renderFields level fields) := by
  cases fields with
  | nil => simp [renderFields]
  | cons field more =>
      obtain ⟨key, value⟩ := field
      simp [renderFields, ascii_newLine, ascii_quote, ascii_renderAt level value,
        ascii_renderFields level more]
termination_by sizeOf fields

end

/-! ## The report -/

namespace Value

def orNull {α : Type} (f : α → Value) : Option α → Value
  | some a => f a
  | none => .null

def ofMethod (m : Method) : Value :=
  .object [("name", .string m.name), ("file", .string m.file)]

def ofControl (c : Control) : Value :=
  .object [("file", .string c.file), ("text", .string c.text)]

/-- What a report says of a call. -/
def ofCall (c : ApiCall) : Value :=
  .object
    [("apiFile", .string c.file),
     ("apiMethod", .string c.api),
     ("endpoint", .string c.endpoint),
     ("line", .number c.line),
     ("col", .number c.col),
     ("immediateMethod", ofMethod c.caller),
     ("topLevelMethod", orNull ofMethod c.top),
     ("uiBinding", orNull ofControl c.control)]

end Value

end Json

end CallOrigin
