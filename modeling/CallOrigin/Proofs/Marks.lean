import CallOrigin.Proofs.Literals

/-! # Marked strings

A mark behind a string, `u8` or `U8`, says how the string is stored and is no part of what it says.
Reading takes off the one mark `u8`, and only behind a string between plain quotes. Any other mark
is read as if it belonged to the text, and the quotes before it with it.
-/

namespace CallOrigin

/-! ## Escapes in front of other text -/

namespace Utf16

theorem join_append_chars (codes : List Nat) (cs : List Char) :
    join (codes ++ cs.map Char.toNat) = join codes ++ cs := by
  fun_induction join codes with
  | case1 => exact join_toNat cs
  | case2 n =>
      -- A half at the end stays alone: what follows it is a character.
      have apart : pairs n (cs.map Char.toNat) = false := by
        cases cs with
        | nil => simp [pairs]
        | cons c cs =>
            have whole := Bool.or_eq_false_iff.mp (isHalf_toNat c)
            simp [pairs, whole.2]
      rw [List.singleton_append, join_single apart, join_toNat, List.singleton_append]
  | case3 high low rest both ih =>
      obtain ⟨isHigh_high, isLow_low⟩ := (Bool.and_eq_true _ _).mp both
      rw [List.cons_append, List.cons_append, join_pair isHigh_high isLow_low, ih, List.cons_append]
  | case4 high low rest apart ih =>
      have apart : pairs high (low :: (rest ++ cs.map Char.toNat)) = false :=
        Bool.eq_false_iff.mpr apart
      rw [List.cons_append, List.cons_append, join_single apart, ← List.cons_append, ih,
        List.cons_append]

end Utf16

namespace Escape

/-- That every backslash of a text has the character behind it that it escapes. -/
inductive Paired : List Char → Prop where
  | nil : Paired []
  | plain {c : Char} {rest : List Char} : c ≠ '\\' → Paired rest → Paired (c :: rest)
  | escape {c : Char} {rest : List Char} : Paired rest → Paired ('\\' :: c :: rest)

theorem length_hexDigits_le (limit : Nat) (cs : List Char) :
    (hexDigits limit cs).length ≤ cs.length := by
  fun_induction hexDigits limit cs with
  | case1 => exact Nat.zero_le _
  | case2 => exact Nat.zero_le _
  | case3 limit c rest d digit ih => exact Nat.succ_le_succ ih
  | case4 limit c rest other => exact Nat.zero_le _

/-- What an escape takes up, its letter apart, is digits. -/
theorem read_length (c : Char) (rest : List Char) :
    ∃ limit, (read c rest).2 = (hexDigits limit rest).length + 1 := by
  fun_cases read c rest with
  | case1 digits complete enough code inRange => exact ⟨_, rfl⟩
  | case2 digits complete enough code beyond => exact ⟨_, rfl⟩
  | case3 digits complete few => exact ⟨0, rfl⟩

theorem Paired.drop_hexDigits (limit : Nat) {cs : List Char} (paired : Paired cs) :
    Paired (cs.drop (hexDigits limit cs).length) := by
  fun_induction hexDigits limit cs with
  | case1 => exact paired
  | case2 => exact paired
  | case3 limit c rest d digit ih =>
      cases paired with
      | plain _ paired => exact ih paired
      | escape => cases digit
  | case4 limit c rest other => exact paired

section
variable {after : List Char} (stops : ∀ d : HexDigit, after.head? ≠ some d.char)
include stops

theorem hexDigits_append_stop (limit : Nat) (cs : List Char) :
    hexDigits limit (cs ++ after) = hexDigits limit cs := by
  fun_induction hexDigits limit cs with
  | case1 => rw [hexDigits]
  | case2 => exact hexDigits_eq_nil stops _
  | case3 limit c rest d digit ih => simp only [List.cons_append, hexDigits, digit, ih]
  | case4 limit c rest other => simp only [List.cons_append, hexDigits, other]

theorem read_append_stop (c : Char) (cs : List Char) : read c (cs ++ after) = read c cs := by
  unfold read
  simp only [hexDigits_append_stop stops]
  rw [List.take_append_of_le_length (length_hexDigits_le _ _)]

/-- A text in which no escape is under way at the end is read for itself. -/
theorem codePoints_append {body : List Char} (paired : Paired body) :
    codePoints (body ++ after) = codePoints body ++ codePoints after := by
  fun_induction codePoints body with
  | case1 => rfl
  | case2 =>
      cases paired with
      | plain other => exact absurd rfl other
  | case3 c rest codes length taken ih =>
      cases paired with
      | plain other => exact absurd rfl other
      | escape paired =>
          obtain ⟨limit, digits⟩ := read_length c rest
          have digits : length - 1 = (hexDigits limit rest).length := by
            rw [taken] at digits
            exact congrArg (· - 1) digits
          have few : length - 1 ≤ rest.length := digits ▸ length_hexDigits_le limit rest
          have ended : Paired (rest.drop (length - 1)) := digits ▸ paired.drop_hexDigits limit
          rw [List.cons_append, List.cons_append, codePoints_escape, read_append_stop stops, taken,
            List.drop_append_of_le_length few, ih ended, List.append_assoc]
  | case4 c rest notLast notEscape ih =>
      cases paired with
      | plain other paired =>
          rw [List.cons_append, codePoints_plain other, ih paired, List.cons_append]
      | escape => exact (notEscape _ _ rfl rfl).elim

theorem decode_append {body : List Char} (paired : Paired body) (unescaped : '\\' ∉ after) :
    decode (String.ofList (body ++ after)) =
      decode (String.ofList body) ++ String.ofList after := by
  have plain : codePoints after = after.map Char.toNat := by
    clear stops
    induction after with
    | nil => rw [codePoints, List.map_nil]
    | cons c rest ih =>
        rw [List.mem_cons, not_or] at unescaped
        rw [codePoints_plain (Ne.symm unescaped.1), ih unescaped.2, List.map_cons]
  rw [decode_eq, decode_eq, String.toList_ofList, String.toList_ofList, codePoints_append stops paired,
    plain, Utf16.join_append_chars, String.ofList_append]

end

end Escape

/-! ## Texts with a mark -/

namespace Literal

/-- What may stand behind a string to say that it is stored as UTF-8. -/
inductive Mark where
  | lower
  | upper
deriving DecidableEq

def Mark.letter : Mark → Char
  | lower => 'u'
  | upper => 'U'

def Mark.text (mark : Mark) : String := String.ofList [mark.letter, '8']

/-- That a text is a whole string of the given kind, without a mark. -/
inductive Written : Literal → String → Prop where
  | string {body : List Char} : Escape.Paired body →
    Written .string (String.ofList ('"' :: (body ++ ['"'])))
  | verbatim (s : String) : Written .verbatimString (verbatim s)
  /-- A raw text may have several lines. No quote of its own stands next to those around it. -/
  | raw {fence : Nat} {s : String} : 0 < fence → s ≠ "" → s.toList.head? ≠ some '"' →
    s.toList.getLast? ≠ some '"' → Written .rawString (raw fence s)

theorem withoutMark_lower (cs : List Char) : withoutMark (cs ++ ['u', '8']) = cs := by
  have marked : ['u', '8'].isSuffixOf (cs ++ ['u', '8']) = true :=
    List.isSuffixOf_iff_suffix.mpr (List.suffix_append _ _)
  rw [withoutMark, if_pos marked]
  simp

theorem withoutMark_upper (cs : List Char) : withoutMark (cs ++ ['U', '8']) = cs ++ ['U', '8'] := by
  have unmarked : ['u', '8'].isSuffixOf (cs ++ ['U', '8']) = false := by
    simp only [List.isSuffixOf, List.reverse_append]
    rfl
  rw [withoutMark, unmarked, if_neg Bool.false_ne_true]

theorem toList_marked (text : String) (mark : Mark) :
    (text ++ mark.text).toList = text.toList ++ [mark.letter, '8'] := by
  simp [Mark.text]

/-! ### Between plain quotes -/

theorem value_string (body : List Char) :
    string.value (String.ofList ('"' :: (body ++ ['"']))) = Escape.decode (String.ofList body) := by
  rw [value, String.toList_ofList, ← List.cons_append, withoutMark_quote, List.cons_append,
    inner_between]

theorem value_string_lower (body : List Char) :
    string.value (String.ofList ('"' :: (body ++ ['"'])) ++ Mark.lower.text) =
      string.value (String.ofList ('"' :: (body ++ ['"']))) := by
  rw [value_string, value, toList_marked, String.toList_ofList, Mark.letter, withoutMark_lower,
    inner_between]

theorem value_string_upper {body : List Char} (paired : Escape.Paired body) :
    string.value (String.ofList ('"' :: (body ++ ['"'])) ++ Mark.upper.text) =
      string.value (String.ofList ('"' :: (body ++ ['"']))) ++ "\"U" := by
  have quote : ∀ d : Escape.HexDigit, ['"', 'U'].head? ≠ some d.char := by
    intro d same
    have digit := Escape.hexValue?_char d
    rw [← Option.some.inj same] at digit
    cases digit
  have taken : inner ('"' :: (body ++ ['"']) ++ ['U', '8']) = body ++ ['"', 'U'] := by
    simp [inner]
  rw [value_string, value, toList_marked, String.toList_ofList, Mark.letter, withoutMark_upper,
    taken, Escape.decode_append quote paired (by decide)]

/-! ### After an at sign -/

theorem value_verbatim_marked (s : String) (mark : Mark) :
    verbatimString.value (verbatim s ++ mark.text) =
      verbatimString.value (verbatim s) ++ String.ofList ['"', mark.letter] := by
  have taken : inner ('"' :: (doubled s.toList ++ ['"']) ++ [mark.letter, '8']) =
      doubled s.toList ++ ['"', mark.letter] := by
    simp [inner]
  have single : undoubled ['"', mark.letter] = ['"', mark.letter] := by
    cases mark <;> rfl
  rw [value_verbatim, value, toList_marked, verbatim, String.toList_ofList, List.cons_append,
    List.dropWhile_cons_of_pos (by decide), List.cons_append,
    List.dropWhile_cons_of_neg (by decide), ← List.cons_append, taken, undoubled_doubled_append,
    single, String.ofList_append, String.ofList_toList]

/-! ### Between several quotes -/

theorem dropWhile_append_stop (p : Char → Bool) {stop : Char} (kept : p stop = false)
    (cs rest : List Char) :
    (cs ++ stop :: rest).dropWhile p = cs.dropWhile p ++ stop :: rest := by
  rw [List.dropWhile_append, List.dropWhile_cons_of_neg (by simp [kept])]
  split
  next nothing => rw [List.isEmpty_iff.mp nothing, List.nil_append]
  next => rfl

theorem trimBy_append_kept (p : Char → Bool) {last : Char} (kept : p last = false)
    (cs : List Char) : Text.trimBy p (cs ++ [last]) = cs.dropWhile p ++ [last] := by
  rw [Text.trimBy, dropWhile_append_stop p kept, List.reverse_append, List.reverse_singleton,
    List.singleton_append, List.dropWhile_cons_of_neg (by simp [kept]), List.reverse_cons,
    List.reverse_reverse]

theorem trimBy_isPrefix (p : Char → Bool) (cs : List Char) :
    Text.trimBy p cs <+: cs.dropWhile p := by
  rw [Text.trimBy, ← List.reverse_suffix, List.reverse_reverse]
  exact List.dropWhile_suffix p

/-- Line breaks at the beginning of a marked raw text are taken off; those at its end stay, being
    in front of the quotes. -/
theorem value_raw_marked {fence : Nat} {s : String} (nonempty : s ≠ "")
    (first : s.toList.head? ≠ some '"') (mark : Mark) :
    rawString.value (raw (fence + 1) s ++ mark.text) =
      String.ofList (s.toList.dropWhile isLineBreak ++
        '"' :: (List.replicate fence '"' ++ [mark.letter, '8'])) := by
  have nonempty : s.toList ≠ [] := by simpa using nonempty
  have kept : ∀ c ∈ s.toList.head?, (c == '"') = false := by
    intro c isFirst
    rw [beq_eq_false_iff_ne]
    rintro rfl
    exact first isFirst
  have fenced : (raw (fence + 1) s ++ mark.text).toList =
      List.replicate (fence + 1) '"' ++
        (s.toList ++ '"' :: (List.replicate fence '"' ++ [mark.letter])) ++ ['8'] := by
    rw [toList_marked]
    simp [raw, List.replicate_succ]
  have unfenced : Text.trimBy (· == '"') (raw (fence + 1) s ++ mark.text).toList =
      s.toList ++ '"' :: (List.replicate fence '"' ++ [mark.letter]) ++ ['8'] := by
    rw [fenced, trimBy_append_kept (· == '"') (by decide),
      dropWhile_replicate_append (· == '"') (by decide),
      dropWhile_append_of_head (· == '"') nonempty kept]
  rw [value, unfenced, trimBy_append_kept isLineBreak (by decide),
    dropWhile_append_stop isLineBreak (by decide)]
  simp

/-! ### All kinds -/

/-- A mark leaves a string's value as it is exactly if it is `u8` behind plain quotes. Otherwise
    something is added to the value, with a quote in it. -/
theorem value_marked {l : Literal} {text : String} (written : Written l text) (mark : Mark) :
    ∃ added, l.value (text ++ mark.text) = l.value text ++ added ∧
      if l = .string ∧ mark = .lower then added = "" else '"' ∈ added.toList := by
  cases written with
  | @string body paired =>
      cases mark with
      | lower => exact ⟨"", by rw [value_string_lower, String.append_empty], by simp⟩
      | upper => exact ⟨"\"U", value_string_upper paired, by simp⟩
  | verbatim s => exact ⟨_, value_verbatim_marked s mark, by simp⟩
  | @raw fence s fenced nonempty first last =>
      obtain ⟨fence, rfl⟩ := Nat.exists_eq_succ_of_ne_zero (Nat.ne_of_gt fenced)
      obtain ⟨breaks, split⟩ := trimBy_isPrefix isLineBreak s.toList
      refine ⟨String.ofList (breaks ++ '"' :: (List.replicate fence '"' ++ [mark.letter, '8'])),
        ?_, by simp⟩
      rw [value_raw_marked nonempty first, value, trimBy_raw nonempty first last,
        ← String.ofList_append, ← split, List.append_assoc]

end Literal

namespace Node

/-- Of the marks behind strings, only `u8` behind a string between plain quotes is not taken for
    text: behind every other string, and for the mark `U8` also behind these, the value of the
    marked string is that of the string with at least a quote added to it. -/
theorem literalValue_marked {l : Literal} {text : String} (written : Literal.Written l text)
    (mark : Literal.Mark) {source source' : List UInt8} {n n' : Node}
    (plain : n.Spells source l text) (marked : n'.Spells source' l (text ++ mark.text)) :
    (n'.literalValue source' = n.literalValue source ↔ l = .string ∧ mark = .lower) ∧
      ∃ added, n'.literalValue source' = n.literalValue source ++ added ∧
        (added = "" ∨ '"' ∈ added.toList) := by
  rw [plain.literalValue_eq.2, marked.literalValue_eq.2]
  obtain ⟨added, value, rest⟩ := Literal.value_marked written mark
  rw [value]
  by_cases taken : l = .string ∧ mark = .lower
  · rw [if_pos taken] at rest
    exact ⟨iff_of_true (by rw [rest, String.append_empty]) taken, added, rfl, .inl rest⟩
  · rw [if_neg taken] at rest
    have more : added ≠ "" := by
      rintro rfl
      simp at rest
    refine ⟨iff_of_false ?_ taken, added, rfl, .inr rest⟩
    simpa using more

/-- A string that is all of its source. -/
private def wholeString (kind : String) (stop : Nat) : Node :=
  ⟨kind, true, none, 0, stop, ⟨0, 0⟩, []⟩

private theorem wholeString_spells {kind : String} {stop : Nat} {l : Literal} {text : String}
    (known : Literal.ofKind? kind = some l) (length : stop = (Utf8.encode text).length) :
    (wholeString kind stop).Spells (Utf8.encode text) l text :=
  .bare known ⟨[], [], by simp, rfl, by simpa [wholeString] using length⟩

/-- The mark behind a raw text of two lines keeps its last line break as well. -/
theorem literalValue_marked_raw_lines :
    Literal.Written .rawString (Literal.raw 3 "\na\nb\n") ∧
      ∃ added, (wholeString "raw_string_literal" 13).literalValue
          (Utf8.encode (Literal.raw 3 "\na\nb\n" ++ Literal.Mark.text .upper)) =
        (wholeString "raw_string_literal" 11).literalValue
          (Utf8.encode (Literal.raw 3 "\na\nb\n")) ++ added ∧
        (added = "" ∨ '"' ∈ added.toList) := by
  have written : Literal.Written .rawString (Literal.raw 3 "\na\nb\n") :=
    .raw (by decide) (by decide) (by decide) (by decide)
  exact ⟨written, (literalValue_marked written .upper (wholeString_spells rfl (by decide))
    (wholeString_spells rfl (by decide))).2⟩

/-- The value of `@"a"u8` is not that of `@"a"`. -/
theorem literalValue_verbatim_mark_kept :
    (wholeString "verbatim_string_literal" 4).Spells (Utf8.encode "@\"a\"") .verbatimString
        "@\"a\"" ∧
      (wholeString "verbatim_string_literal" 6).Spells (Utf8.encode "@\"a\"u8") .verbatimString
        ("@\"a\"" ++ "u8") ∧
      (wholeString "verbatim_string_literal" 4).literalValue (Utf8.encode "@\"a\"") = "a" ∧
      (wholeString "verbatim_string_literal" 6).literalValue (Utf8.encode "@\"a\"u8") =
        "a\"u" := by
  have plain : (wholeString "verbatim_string_literal" 4).Spells (Utf8.encode "@\"a\"")
      .verbatimString "@\"a\"" := wholeString_spells rfl (by decide)
  have marked : (wholeString "verbatim_string_literal" 6).Spells (Utf8.encode "@\"a\"u8")
      .verbatimString "@\"a\"u8" := wholeString_spells rfl (by decide)
  exact ⟨plain, marked, plain.literalValue_eq.2.trans (by decide),
    marked.literalValue_eq.2.trans (by decide)⟩

end Node

end CallOrigin
