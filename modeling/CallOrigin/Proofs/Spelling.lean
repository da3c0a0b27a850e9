import CallOrigin.Proofs.Surrogates
import CallOrigin.Source.Escape
import Mathlib.Data.List.Chain
import Mathlib.Data.Nat.Digits.Lemmas

/-! # Spellings of quoted text

A character of a quoted text may be written as it is, by a letter behind a backslash or by
hexadecimal digits. A spelling is a list of such tokens that can be told apart: digits that may be
fewer than four have no other digit behind them. Decoding a spelling gives the code points of its
tokens, with the pairs among them joined.
-/

namespace CallOrigin.Escape

/-! ## Tokens -/

structure HexDigit where
  value : Fin 16
  upper : Bool
deriving DecidableEq

namespace HexDigit

def char (d : HexDigit) : Char :=
  (if d.upper then
    ['0', '1', '2', '3', '4', '5', '6', '7', '8', '9', 'A', 'B', 'C', 'D', 'E', 'F']
  else
    ['0', '1', '2', '3', '4', '5', '6', '7', '8', '9', 'a', 'b', 'c', 'd', 'e', 'f']).getD
      d.value '0'

/-- The number that digits stand for, the first of them being the most significant. -/
def number (digits : List HexDigit) : Nat :=
  Nat.ofDigits 16 (digits.map (·.value.val)).reverse

end HexDigit

/-- The characters that a letter or mark behind a backslash stands for. -/
inductive Control where
  | apostrophe | quotation | backslash | null | alert | backspace | escape | formFeed | lineFeed
  | carriageReturn | tab | verticalTab
deriving DecidableEq

namespace Control

def mark : Control → Char
  | apostrophe => '\''
  | quotation => '"'
  | backslash => '\\'
  | null => '0'
  | alert => 'a'
  | backspace => 'b'
  | escape => 'e'
  | formFeed => 'f'
  | lineFeed => 'n'
  | carriageReturn => 'r'
  | tab => 't'
  | verticalTab => 'v'

def code : Control → Nat
  | apostrophe => 0x27
  | quotation => 0x22
  | backslash => 0x5C
  | null => 0x00
  | alert => 0x07
  | backspace => 0x08
  | escape => 0x1B
  | formFeed => 0x0C
  | lineFeed => 0x0A
  | carriageReturn => 0x0D
  | tab => 0x09
  | verticalTab => 0x0B

end Control

/-- One way to write one code point. -/
inductive Token where
  | plain (c : Char) (unescaped : c ≠ '\\')
  | control (c : Control)
  | four (digits : List HexDigit) (exact : digits.length = 4)
  | eight (digits : List HexDigit) (exact : digits.length = 8)
    (inRange : HexDigit.number digits ≤ 0x10FFFF)
  | upToFour (digits : List HexDigit) (least : 1 ≤ digits.length) (most : digits.length ≤ 4)

namespace Token

def text : Token → List Char
  | plain c _ => [c]
  | control c => ['\\', c.mark]
  | four digits _ => '\\' :: 'u' :: digits.map HexDigit.char
  | eight digits _ _ => '\\' :: 'U' :: digits.map HexDigit.char
  | upToFour digits _ _ => '\\' :: 'x' :: digits.map HexDigit.char

def code : Token → Nat
  | plain c _ => c.toNat
  | control c => c.code
  | four digits _ => HexDigit.number digits
  | eight digits _ _ => HexDigit.number digits
  | upToFour digits _ _ => HexDigit.number digits

/-- A text behind a token that does not prolong it. -/
def EndsAt (rest : List Char) : Token → Prop
  | upToFour digits _ _ => digits.length < 4 → ∀ d : HexDigit, rest.head? ≠ some d.char
  | _ => True

end Token

/-- Tokens none of which is prolonged by the next. -/
structure Spelling where
  tokens : List Token
  apart : tokens.IsChain fun t next => t.EndsAt next.text

namespace Spelling

def text (s : Spelling) : String := String.ofList (s.tokens.flatMap Token.text)

def codes (s : Spelling) : List Nat := s.tokens.map Token.code

end Spelling

/-! ## Digits -/

theorem hexValue?_char (d : HexDigit) : hexValue? d.char = some d.value.val := by
  obtain ⟨value, upper⟩ := d
  revert value upper
  decide

theorem exists_char_of_hexValue? {c : Char} {n : Nat} (digit : hexValue? c = some n) :
    ∃ d : HexDigit, c = d.char := by
  have ascii : c.toNat < 128 := by
    revert digit
    fun_cases hexValue? c with
    | case1 decimal =>
        intro _
        exact Nat.lt_of_le_of_lt (Char.isDigit_iff_toNat.mp decimal).2 (by decide)
    | case2 _ between | case3 _ _ between =>
        intro _
        exact Nat.lt_of_le_of_lt between.2 (by decide)
    | case4 => nofun
  -- Only finitely many characters are left, and each of the digits among them is in the list.
  have table : ∀ m < 128, (hexValue? (Char.ofNat m)).isSome →
      ∃ value upper, Char.ofNat m = HexDigit.char ⟨value, upper⟩ := by
    decide
  have found := table c.toNat ascii (by rw [Char.ofNat_toNat, digit]; rfl)
  rw [Char.ofNat_toNat] at found
  obtain ⟨value, upper, same⟩ := found
  exact ⟨_, same⟩

theorem hexDigits_append {limit : Nat} {digits : List HexDigit} (few : digits.length ≤ limit)
    (rest : List Char) :
    hexDigits limit (digits.map HexDigit.char ++ rest) =
      digits.map (·.value.val) ++ hexDigits (limit - digits.length) rest := by
  induction digits generalizing limit with
  | nil => rfl
  | cons d digits ih =>
      cases limit with
      | zero => simp at few
      | succ limit =>
          have few : digits.length ≤ limit := Nat.le_of_succ_le_succ few
          simp only [List.map_cons, List.cons_append, hexDigits, hexValue?_char, ih few,
            List.length_cons, Nat.add_sub_add_right]

theorem hexDigits_eq_nil {rest : List Char} (stops : ∀ d : HexDigit, rest.head? ≠ some d.char)
    (limit : Nat) : hexDigits limit rest = [] := by
  fun_cases hexDigits limit rest with
  | case1 => rfl
  | case2 => rfl
  | case3 limit c rest n digit =>
      obtain ⟨d, rfl⟩ := exists_char_of_hexValue? digit
      exact absurd rfl (stops d)
  | case4 => rfl

theorem hexNumber_eq (digits : List HexDigit) :
    hexNumber (digits.map (·.value.val)) = HexDigit.number digits := by
  induction digits using List.reverseRecOn with
  | nil => rfl
  | append_singleton digits d ih =>
      simp only [hexNumber, HexDigit.number, List.map_append, List.foldl_append, List.map_cons,
        List.map_nil, List.foldl_cons, List.foldl_nil, List.reverse_append, List.reverse_cons,
        List.reverse_nil, List.nil_append, List.cons_append, Nat.ofDigits_cons] at ih ⊢
      rw [ih]
      omega

theorem number_lt (digits : List HexDigit) : HexDigit.number digits < 16 ^ digits.length := by
  have bound := Nat.ofDigits_lt_base_pow_length (b := 16)
    (l := (digits.map (·.value.val)).reverse) (by decide) (by simp)
  simpa [HexDigit.number] using bound

/-! ## Reading a token -/

theorem codePoints_plain {c : Char} (unescaped : c ≠ '\\') (rest : List Char) :
    codePoints (c :: rest) = c.toNat :: codePoints rest := by
  rw [codePoints]
  · simp [unescaped]
  · simp [unescaped]

theorem codePoints_escape (c : Char) (rest : List Char) :
    codePoints ('\\' :: c :: rest) =
      (read c rest).1 ++ codePoints (rest.drop ((read c rest).2 - 1)) := by
  rw [codePoints]

theorem read_control (c : Control) (rest : List Char) : read c.mark rest = ([c.code], 1) := by
  cases c <;> rfl

theorem read_digits {c : Char} {text : List Char} {digits : List HexDigit}
    (taken : hexDigits (if c == 'u' || c == 'x' then 4 else if c == 'U' then 8 else 0) text =
      digits.map (·.value.val))
    (complete : ((c == 'u' && digits.length == 4) || (c == 'U' && digits.length == 8)
      || (c == 'x' && 1 ≤ digits.length)) = true)
    (inRange : HexDigit.number digits ≤ 0x10FFFF) :
    read c text = ([HexDigit.number digits], digits.length + 1) := by
  unfold read
  rw [taken]
  simp only [List.length_map, complete, if_true, hexNumber_eq, inRange]

theorem number_le_of_length_le {digits : List HexDigit} (few : digits.length ≤ 4) :
    HexDigit.number digits ≤ 0x10FFFF := by
  have bound := number_lt digits
  have power : 16 ^ digits.length ≤ 16 ^ 4 := Nat.pow_le_pow_right (by decide) few
  omega

theorem read_four {digits : List HexDigit} (exact : digits.length = 4) (rest : List Char) :
    read 'u' (digits.map HexDigit.char ++ rest) =
      ([HexDigit.number digits], digits.length + 1) := by
  refine read_digits ?_ (by simp [exact]) (number_le_of_length_le exact.le)
  simp [hexDigits_append exact.le, exact, hexDigits]

theorem read_eight {digits : List HexDigit} (exact : digits.length = 8)
    (inRange : HexDigit.number digits ≤ 0x10FFFF) (rest : List Char) :
    read 'U' (digits.map HexDigit.char ++ rest) =
      ([HexDigit.number digits], digits.length + 1) := by
  refine read_digits ?_ (by simp [exact]) inRange
  simp [hexDigits_append exact.le, exact, hexDigits]

theorem read_upToFour {digits : List HexDigit} (least : 1 ≤ digits.length)
    (most : digits.length ≤ 4) {rest : List Char}
    (ends : digits.length < 4 → ∀ d : HexDigit, rest.head? ≠ some d.char) :
    read 'x' (digits.map HexDigit.char ++ rest) =
      ([HexDigit.number digits], digits.length + 1) := by
  have none : hexDigits (4 - digits.length) rest = [] := by
    rcases Nat.lt_or_eq_of_le most with fewer | exact
    · exact hexDigits_eq_nil (ends fewer) _
    · rw [exact]
      rfl
  refine read_digits ?_ (by simp [least]) (number_le_of_length_le most)
  simp [hexDigits_append most, none]

theorem codePoints_of_read {c : Char} {body rest : List Char} {code : Nat}
    (taken : read c (body ++ rest) = ([code], body.length + 1)) :
    codePoints ('\\' :: c :: body ++ rest) = code :: codePoints rest := by
  rw [List.cons_append, List.cons_append, codePoints_escape, taken]
  simp

/-- A token in front of a text that does not prolong it is read as its code point. -/
theorem codePoints_token {t : Token} {rest : List Char} (ends : t.EndsAt rest) :
    codePoints (t.text ++ rest) = t.code :: codePoints rest := by
  cases t with
  | plain c unescaped => exact codePoints_plain unescaped rest
  | control c =>
      have taken : read c.mark ([] ++ rest) = ([c.code], 0 + 1) := read_control c rest
      exact codePoints_of_read taken
  | four digits exact =>
      refine codePoints_of_read ?_
      rw [List.length_map]
      exact read_four exact rest
  | eight digits exact inRange =>
      refine codePoints_of_read ?_
      rw [List.length_map]
      exact read_eight exact inRange rest
  | upToFour digits least most =>
      refine codePoints_of_read ?_
      rw [List.length_map]
      exact read_upToFour least most ends

/-! ## Reading a spelling -/

theorem Token.text_ne_nil (t : Token) : t.text ≠ [] := by
  cases t <;> simp [text]

theorem Token.endsAt_nil (t : Token) : t.EndsAt [] := by
  cases t <;> simp [EndsAt]

theorem Token.EndsAt.append {t : Token} {text : List Char} (ends : t.EndsAt text)
    (nonempty : text ≠ []) (rest : List Char) : t.EndsAt (text ++ rest) := by
  cases t with
  | upToFour digits least most =>
      intro fewer d
      rw [List.head?_append_of_ne_nil _ nonempty]
      exact ends fewer d
  | _ => trivial

theorem codePoints_tokens {tokens : List Token}
    (apart : tokens.IsChain fun t next => t.EndsAt next.text) :
    codePoints (tokens.flatMap Token.text) = tokens.map Token.code := by
  induction tokens with
  | nil => simp [codePoints]
  | cons t tokens ih =>
      -- What prolongs a token is the first character behind it, and that is one of the next token.
      have ends : t.EndsAt (tokens.flatMap Token.text) := by
        cases tokens with
        | nil => exact t.endsAt_nil
        | cons next tokens =>
            rw [List.isChain_cons_cons] at apart
            exact apart.1.append next.text_ne_nil _
      rw [List.flatMap_cons, codePoints_token ends, ih apart.of_cons, List.map_cons]

/-! ## Decoding -/

theorem simple_le {c : Char} {n : Nat} (known : simple.lookup c = some n) : n ≤ 0x10FFFF := by
  have table : ∀ entry ∈ simple, entry.2 ≤ 0x10FFFF := by decide
  obtain ⟨front, back, split, _⟩ := List.lookup_eq_some_iff.mp known
  have listed : (c, n) ∈ simple := by
    rw [split]
    exact List.mem_append_right _ List.mem_cons_self
  exact table _ listed

theorem read_le (c : Char) (rest : List Char) : ∀ n ∈ (read c rest).1, n ≤ 0x10FFFF := by
  fun_cases read c rest with
  | case1 digits complete enough code inRange => exact List.forall_mem_singleton.mpr inRange
  | case2 digits complete enough code beyond =>
      simp only [List.forall_mem_cons, List.forall_mem_map]
      exact ⟨by decide, Utf16.toNat_le c, fun d _ => Utf16.toNat_le d⟩
  | case3 digits complete few =>
      refine List.forall_mem_singleton.mpr ?_
      cases known : simple.lookup c with
      | none => exact Utf16.toNat_le c
      | some n => exact simple_le known

/-- An escape stands for no more than the last code point. -/
theorem codePoints_le (cs : List Char) : ∀ n ∈ codePoints cs, n ≤ 0x10FFFF := by
  fun_induction codePoints cs with
  | case1 => exact List.forall_mem_nil _
  | case2 => exact List.forall_mem_singleton.mpr (by decide)
  | case3 c rest codes length taken ih =>
      have inRange := read_le c rest
      rw [taken] at inRange
      exact List.forall_mem_append.mpr ⟨inRange, ih⟩
  | case4 c rest _ _ ih => exact List.forall_mem_cons.mpr ⟨Utf16.toNat_le c, ih⟩

/-- Nothing is lost on the way through bytes but halves that are left alone. -/
theorem decode_eq (text : String) :
    decode text = String.ofList (Utf16.join (codePoints text.toList)) := by
  rw [decode, Utf16.decode_encode (codePoints_le text.toList)]

theorem Token.code_le (t : Token) : t.code ≤ 0x10FFFF := by
  cases t with
  | plain c _ => exact Utf16.toNat_le c
  | control c => cases c <;> decide
  | four digits exact => exact number_le_of_length_le exact.le
  | eight digits _ inRange => exact inRange
  | upToFour digits _ most => exact number_le_of_length_le most

/-- Decoding undoes every spelling: it gives the code points that the tokens stand for, in order,
    with pairs of halves joined and halves left alone replaced. -/
theorem decode_spelling (s : Spelling) (decoded : String) :
    decode s.text = decoded ↔ Utf16.Joined s.codes decoded.toList := by
  have inRange : ∀ n ∈ s.codes, n ≤ 0x10FFFF := by
    intro n inside
    obtain ⟨t, _, rfl⟩ := List.mem_map.mp inside
    exact t.code_le
  rw [← Utf16.join_eq_iff inRange, decode_eq, Spelling.text, String.toList_ofList,
    codePoints_tokens s.apart, Spelling.codes, ← String.toList_inj, String.toList_ofList]

end CallOrigin.Escape
