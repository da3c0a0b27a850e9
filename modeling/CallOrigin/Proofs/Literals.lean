import CallOrigin.Proofs.Spelling
import CallOrigin.Proofs.Utf8Texts
import CallOrigin.Source.Literal

/-! # Texts written as literals

A text can be written between quotes with escapes, after an at sign with its quotes doubled, or raw
between several quotes. The value of what is written is the text again, wherever in a source the
literal stands, and also if another node is wrapped around it.
-/

namespace CallOrigin

/-! ## Doubled quotes -/

namespace Literal

/-- A text in which every quote is written twice. -/
def doubled : List Char → List Char
  | [] => []
  | c :: rest => if c = '"' then '"' :: '"' :: doubled rest else c :: doubled rest

/-- A text after an at sign, between quotes and with its own quotes doubled. -/
def verbatim (s : String) : String :=
  String.ofList ('@' :: '"' :: (doubled s.toList ++ ['"']))

theorem undoubled_cons {c : Char} (other : c ≠ '"') (rest : List Char) :
    undoubled (c :: rest) = c :: undoubled rest := by
  rw [undoubled]
  intro _ same
  exact absurd same other

theorem undoubled_doubled_append (cs rest : List Char) :
    undoubled (doubled cs ++ rest) = cs ++ undoubled rest := by
  induction cs with
  | nil => rfl
  | cons c cs ih =>
      by_cases quote : c = '"'
      · simp [doubled, undoubled, quote, ih]
      · simp [doubled, undoubled_cons, quote, ih]

theorem undoubled_doubled (cs : List Char) : undoubled (doubled cs) = cs := by
  have alone := undoubled_doubled_append cs []
  rwa [List.append_nil, undoubled, List.append_nil] at alone

theorem inner_between (left right : Char) (middle : List Char) :
    inner (left :: (middle ++ [right])) = middle := by
  simp [inner]

theorem value_verbatim (s : String) : verbatimString.value (verbatim s) = s := by
  simp [value, verbatim, inner_between, undoubled_doubled]

end Literal

/-! ## Escapes -/

namespace Escape

/-- A character as it is written between quotes: escaped if it would end the literal or begin an
    escape. -/
def Token.of (c : Char) : Token :=
  if h : c = '\\' then .control .backslash
  else if c = '"' then .control .quotation
  else if c = '\n' then .control .lineFeed
  else if c = '\r' then .control .carriageReturn
  else .plain c h

theorem Token.code_of (c : Char) : (Token.of c).code = c.toNat := by
  unfold Token.of
  split
  next same => rw [same]; rfl
  split
  next same => rw [same]; rfl
  split
  next same => rw [same]; rfl
  split
  next same => rw [same]; rfl
  next => rfl

theorem Token.endsAt_of (c : Char) (rest : List Char) : (Token.of c).EndsAt rest := by
  unfold Token.of
  repeat' split
  all_goals trivial

namespace Spelling

/-- That a spelling stands for a text and can be put between quotes: a quote or a line break in it
    is escaped. -/
structure Quotes (spelling : Spelling) (s : String) : Prop where
  stands : Utf16.Joined spelling.codes s.toList
  escaped : ∀ c unescaped, Token.plain c unescaped ∈ spelling.tokens →
    c ≠ '"' ∧ Literal.isLineBreak c = false

theorem Quotes.decode {spelling : Spelling} {s : String} (quotes : spelling.Quotes s) :
    Escape.decode spelling.text = s := by
  have joined : Utf16.join spelling.codes = s.toList := quotes.stands.eq_join.symm
  rw [decode_eq, Spelling.text, String.toList_ofList, codePoints_tokens spelling.apart]
  exact (congrArg String.ofList joined).trans String.ofList_toList

/-- The spelling of a text in which backslashes, quotes and line breaks are escaped, and nothing
    else. -/
def ofText (s : String) : Spelling where
  tokens := s.toList.map Token.of
  apart := by
    induction s.toList with
    | nil => exact .nil
    | cons c cs ih =>
        cases cs with
        | nil => exact .singleton _
        | cons d cs => exact .cons_cons (Token.endsAt_of c _) ih

theorem joined_toNat (cs : List Char) : Utf16.Joined (cs.map Char.toNat) cs := by
  induction cs with
  | nil => exact .nil
  | cons c cs ih => exact .whole ih

theorem quotes_ofText (s : String) : (ofText s).Quotes s where
  stands := by
    have codes : (ofText s).codes = s.toList.map Char.toNat := by
      simp [Spelling.codes, ofText, Function.comp_def, Token.code_of]
    rw [codes]
    exact joined_toNat s.toList
  escaped := by
    intro c unescaped listed
    obtain ⟨d, _, same⟩ := List.mem_map.mp listed
    unfold Token.of at same
    repeat' split at same
    all_goals cases same
    rename_i quote feed return_
    exact ⟨quote, by simp [Literal.isLineBreak, feed, return_]⟩

end Spelling

end Escape

namespace Literal

/-- A spelling between quotes. -/
def quoted (spelling : Escape.Spelling) : String :=
  String.ofList ('"' :: (spelling.text.toList ++ ['"']))

/-- What ends in a quote has no mark behind it. -/
theorem withoutMark_quote (cs : List Char) : withoutMark (cs ++ ['"']) = cs ++ ['"'] := by
  have unmarked : ['u', '8'].isSuffixOf (cs ++ ['"']) = false := by
    simp only [List.isSuffixOf, List.reverse_append]
    rfl
  rw [withoutMark, unmarked, if_neg Bool.false_ne_true]

theorem value_quoted {spelling : Escape.Spelling} {s : String} (quotes : spelling.Quotes s) :
    string.value (quoted spelling) = s := by
  rw [value, quoted, String.toList_ofList, ← List.cons_append, withoutMark_quote, List.cons_append,
    inner_between, String.ofList_toList, quotes.decode]

/-! ## Raw texts -/

/-- A text with the given number of quotes on each side. -/
def raw (fence : Nat) (s : String) : String :=
  String.ofList (List.replicate fence '"' ++ s.toList ++ List.replicate fence '"')

/-- That a text can be written raw on one line. -/
structure OnOneLine (s : String) : Prop where
  nonempty : s ≠ ""
  unbroken : ∀ c ∈ s.toList, isLineBreak c = false
  first : s.toList.head? ≠ some '"'
  last : s.toList.getLast? ≠ some '"'

theorem dropWhile_replicate_append (p : Char → Bool) {c : Char} (dropped : p c = true) (n : Nat)
    (rest : List Char) : (List.replicate n c ++ rest).dropWhile p = rest.dropWhile p := by
  induction n with
  | zero => simp
  | succ n ih => simp [List.replicate_succ, dropped, ih]

theorem dropWhile_append_of_head (p : Char → Bool) {cs : List Char} (nonempty : cs ≠ [])
    (kept : ∀ c ∈ cs.head?, p c = false) (rest : List Char) :
    (cs ++ rest).dropWhile p = cs ++ rest := by
  cases cs with
  | nil => exact absurd rfl nonempty
  | cons c cs => simp [kept c rfl]

/-- Trimming takes away what is around a text that neither begins nor ends with what is trimmed. -/
theorem trimBy_fenced (p : Char → Bool) {fence : Char} (trimmed : p fence = true) {cs : List Char}
    (nonempty : cs ≠ []) (first : ∀ c ∈ cs.head?, p c = false)
    (last : ∀ c ∈ cs.getLast?, p c = false) (n : Nat) :
    Text.trimBy p (List.replicate n fence ++ cs ++ List.replicate n fence) = cs := by
  have front : (List.replicate n fence ++ cs ++ List.replicate n fence).dropWhile p =
      cs ++ List.replicate n fence := by
    rw [List.append_assoc, dropWhile_replicate_append p trimmed,
      dropWhile_append_of_head p nonempty first]
  have back : (cs ++ List.replicate n fence).reverse.dropWhile p = cs.reverse := by
    rw [List.reverse_append, List.reverse_replicate, dropWhile_replicate_append p trimmed]
    have nonempty' : cs.reverse ≠ [] := by simpa using nonempty
    have kept := dropWhile_append_of_head p nonempty' (by simpa using last) []
    simpa using kept
  rw [Text.trimBy, front, back, List.reverse_reverse]

theorem trimBy_raw {s : String} (nonempty : s ≠ "") (first : s.toList.head? ≠ some '"')
    (last : s.toList.getLast? ≠ some '"') (fence : Nat) :
    Text.trimBy (· == '"') (raw fence s).toList = s.toList := by
  rw [raw, String.toList_ofList]
  apply trimBy_fenced (· == '"') (by decide) (by simpa using nonempty)
  · intro c isFirst
    have other : c ≠ '"' := by
      rintro rfl
      exact first isFirst
    simpa using other
  · intro c isLast
    have other : c ≠ '"' := by
      rintro rfl
      exact last isLast
    simpa using other

theorem value_raw {s : String} (line : OnOneLine s) (fence : Nat) :
    rawString.value (raw fence s) = s := by
  have nonempty : s.toList ≠ [] := by simpa using line.nonempty
  have unbroken : Text.trimBy isLineBreak s.toList = s.toList := by
    have newline : isLineBreak '\n' = true := rfl
    have trimmed := trimBy_fenced isLineBreak newline nonempty
      (fun c first => line.unbroken c (List.mem_of_mem_head? first))
      (fun c last => line.unbroken c (List.mem_of_mem_getLast? last)) 0
    simpa using trimmed
  rw [value, trimBy_raw line.nonempty line.first line.last, unbroken, String.ofList_toList]

end Literal

/-! ## Literals in a source -/

namespace Node

/-- That a node spans exactly the bytes of a text, whatever is before and behind it. -/
def Spans (source : List UInt8) (n : Node) (text : String) : Prop :=
  ∃ before after, source = before ++ (Utf8.encode text ++ after) ∧ n.start = before.length ∧
    n.stop = before.length + (Utf8.encode text).length

theorem Spans.text_eq {source : List UInt8} {n : Node} {text : String}
    (spans : n.Spans source text) : n.text source = text := by
  obtain ⟨before, after, rfl, start, stop⟩ := spans
  rw [Node.text, start, stop, List.drop_left, Nat.add_sub_cancel_left, List.take_left,
    Utf8.decode_encode]

/-- A node of a source that is a literal with the given text, or that is wrapped around one. -/
inductive Spells (source : List UInt8) (l : Literal) (text : String) : Node → Prop where
  | bare {n : Node} : Literal.ofKind? n.kind = some l → n.Spans source text →
    Spells source l text n
  | wrapped {n inside : Node} : n.kind = "literal" → n.namedChildren = [inside] →
    Literal.ofKind? inside.kind = some l → inside.Spans source text → Spells source l text n

theorem unwrapped_of_ofKind? {n : Node} {l : Literal} (kind : Literal.ofKind? n.kind = some l) :
    n.unwrapped = n := by
  have other : n.kind ≠ "literal" := by
    intro wrapper
    rw [wrapper] at kind
    cases kind
  simp [unwrapped, other]

/-- The value of a literal is that of its text. -/
theorem Spells.literalValue_eq {source : List UInt8} {l : Literal} {text : String} {n : Node}
    (spells : Spells source l text n) :
    n.literal? = some l ∧ n.literalValue source = l.value text := by
  cases spells with
  | bare kind spans =>
      simp [literal?, literalValue, unwrapped_of_ofKind? kind, kind, spans.text_eq]
  | @wrapped inside wrapper only kind spans =>
      have content : n.unwrapped = inside := by simp [unwrapped, wrapper, only]
      simp [literal?, literalValue, content, kind, spans.text_eq]

/-- Every notation for literals is read back: the value of a text that is written verbatim, between
    quotes with any escapes, or raw on one line between any number of quotes is the text, wherever
    the literal stands in a source. -/
theorem literalValue_inverts (s : String) (source : List UInt8) (n : Node) :
    (n.Spells source .verbatimString (Literal.verbatim s) → n.literalValue source = s) ∧
    ((Escape.Spelling.ofText s).Quotes s ∧
      ∀ spelling : Escape.Spelling, spelling.Quotes s →
        n.Spells source .string (Literal.quoted spelling) → n.literalValue source = s) ∧
    (Literal.OnOneLine s → ∀ fence,
      n.Spells source .rawString (Literal.raw fence s) → n.literalValue source = s) := by
  refine ⟨?_, ⟨Escape.Spelling.quotes_ofText s, ?_⟩, ?_⟩
  · intro spells
    rw [spells.literalValue_eq.2, Literal.value_verbatim]
  · intro spelling quotes spells
    rw [spells.literalValue_eq.2, Literal.value_quoted quotes]
  · intro line fence spells
    rw [spells.literalValue_eq.2, Literal.value_raw line]

/-- A literal behind two bytes of a source. -/
private def literalBehindTwo (kind : String) (stop : Nat) : Node :=
  ⟨kind, true, none, 2, stop, ⟨0, 2⟩, []⟩

/-- The literal `@"a""u8"` in a node of its own. -/
private def wrappedLiteral : Node :=
  ⟨"literal", true, none, 2, 10, ⟨0, 2⟩, [literalBehindTwo "verbatim_string_literal" 10]⟩

/-- An escaped quote and the two halves of a character, `\"\ud83d\ude00`. -/
private def quoteAndHalves : Escape.Spelling where
  tokens :=
    [.control .quotation, .four [⟨13, false⟩, ⟨8, false⟩, ⟨3, false⟩, ⟨13, false⟩] rfl,
      .four [⟨13, false⟩, ⟨14, false⟩, ⟨0, false⟩, ⟨0, false⟩] rfl]
  apart := .cons_cons trivial (.cons_cons trivial (.singleton _))

private theorem quoteAndHalves_quotes : quoteAndHalves.Quotes "\"😀" where
  stands := .whole (c := '"') (.pair (by decide) (by decide) .nil)
  escaped := by simp [quoteAndHalves]

/-- A verbatim text that ends like a marked literal, a text with a character that is escaped by
    halves and a raw text with a quote in it are read back. -/
theorem literalValue_inverts_wrapped :
    (wrappedLiteral.Spells (Utf8.encode "F(@\"a\"\"u8\")") .verbatimString
        (Literal.verbatim "a\"u8") ∧
      wrappedLiteral.literalValue (Utf8.encode "F(@\"a\"\"u8\")") = "a\"u8") ∧
    (quoteAndHalves.Quotes "\"😀" ∧
      (literalBehindTwo "string_literal" 18).Spells (Utf8.encode "F(\"\\\"\\ud83d\\ude00\")")
        .string (Literal.quoted quoteAndHalves) ∧
      (literalBehindTwo "string_literal" 18).literalValue
        (Utf8.encode "F(\"\\\"\\ud83d\\ude00\")") = "\"😀") ∧
    (Literal.OnOneLine "a\"b" ∧
      (literalBehindTwo "raw_string_literal" 11).Spells (Utf8.encode "F(\"\"\"a\"b\"\"\")")
        .rawString (Literal.raw 3 "a\"b") ∧
      (literalBehindTwo "raw_string_literal" 11).literalValue
        (Utf8.encode "F(\"\"\"a\"b\"\"\")") = "a\"b") := by
  have verbatim : wrappedLiteral.Spells (Utf8.encode "F(@\"a\"\"u8\")") .verbatimString
      (Literal.verbatim "a\"u8") :=
    .wrapped rfl rfl rfl ⟨Utf8.encode "F(", Utf8.encode ")", by decide, by decide, by decide⟩
  have quoted : (literalBehindTwo "string_literal" 18).Spells
      (Utf8.encode "F(\"\\\"\\ud83d\\ude00\")") .string (Literal.quoted quoteAndHalves) :=
    .bare rfl ⟨Utf8.encode "F(", Utf8.encode ")", by decide, by decide, by decide⟩
  have raw : (literalBehindTwo "raw_string_literal" 11).Spells
      (Utf8.encode "F(\"\"\"a\"b\"\"\")") .rawString (Literal.raw 3 "a\"b") :=
    .bare rfl ⟨Utf8.encode "F(", Utf8.encode ")", by decide, by decide, by decide⟩
  have line : Literal.OnOneLine "a\"b" := ⟨by decide, by simp [Literal.isLineBreak], by decide, by decide⟩
  exact ⟨⟨verbatim, (literalValue_inverts _ _ _).1 verbatim⟩,
    ⟨quoteAndHalves_quotes, quoted,
      (literalValue_inverts _ _ _).2.1.2 _ quoteAndHalves_quotes quoted⟩,
    ⟨line, raw, (literalValue_inverts _ _ _).2.2 line 3 raw⟩⟩

end Node

end CallOrigin
