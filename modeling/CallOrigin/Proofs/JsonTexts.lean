import CallOrigin.Proofs.JsonReader
import CallOrigin.Report.Json

/-! # Strings and numbers in JSON

A string and a number are read back from how they are written, whatever follows. A character is
spelt by itself, by a mark, by its code or by the codes of its two halves; what is read are the code
points of the spelling, and joining them gives the character.
-/

namespace CallOrigin.Json

/-! ## Strings -/

/-- The hexadecimal digits of a number, as many as given. -/
def paddedDigits : (width : Nat) → Nat → List Char
  | 0, _ => []
  | width + 1, n => paddedDigits width (n / 16) ++ [Nat.digitChar (n % 16)]

theorem pad_toDigits {width n : Nat} (fits : n < 16 ^ (width + 1)) :
    List.replicate (width + 1 - (Nat.toDigits 16 n).length) '0' ++ Nat.toDigits 16 n =
      paddedDigits (width + 1) n := by
  have digits := Nat.toDigits_eq_if (b := 16) (n := n) (by decide)
  induction width generalizing n with
  | zero =>
      have below : n < 16 := by simpa using fits
      rw [digits, if_pos below, paddedDigits, Nat.mod_eq_of_lt below]
      rfl
  | succ width ih =>
      have fewer : n / 16 < 16 ^ (width + 1) := by
        rw [Nat.div_lt_iff_lt_mul (by decide), ← Nat.pow_succ]
        exact fits
      have front := ih fewer (Nat.toDigits_eq_if (by decide))
      rw [paddedDigits, ← front, digits]
      split
      · rename_i below
        rw [Nat.div_eq_of_lt below, Nat.mod_eq_of_lt below, Nat.toDigits_zero]
        simp [List.replicate_succ']
      · simp [Nat.succ_sub_succ]

theorem codeEscape_eq {n : Nat} (small : n < 0x10000) :
    codeEscape n = '\\' :: 'u' :: paddedDigits 4 n := by
  rw [← pad_toDigits (by simpa using small)]
  rfl

theorem hexValue?_digitChar : ∀ d < 16, Escape.hexValue? (Nat.digitChar d) = some d := by
  decide

/-- The code points of a string with some more in front of them. -/
def prepend (front : List Nat) : List Nat × List Char → List Nat × List Char
  | (codes, rest) => (front ++ codes, rest)

theorem map_prepend_prepend (front next : List Nat) (outcome : Option (List Nat × List Char)) :
    (outcome.map (prepend next)).map (prepend front) = outcome.map (prepend (front ++ next)) := by
  cases outcome <;> simp [prepend]

theorem readCodes_codeEscape {n : Nat} (small : n < 0x10000) (rest : List Char) :
    readCodes (codeEscape n ++ rest) = (readCodes rest).map (prepend [n]) := by
  have value :
      Escape.hexNumber [n / 16 / 16 / 16 % 16, n / 16 / 16 % 16, n / 16 % 16, n % 16] = n := by
    simp only [Escape.hexNumber, List.foldl_cons, List.foldl_nil]
    omega
  have digit (m : Nat) := hexValue?_digitChar (m % 16) (Nat.mod_lt m (by decide))
  rw [codeEscape_eq small]
  simp only [paddedDigits, List.cons_append, List.nil_append, readCodes, List.mapM_cons,
    List.mapM_nil, digit, Option.pure_def, Option.bind_eq_bind, Option.bind_some, value]
  cases readCodes rest <;> rfl

theorem readCodes_mark {mark : Char} {code : Nat} (other : mark ≠ 'u')
    (known : marks.lookup mark = some code) (rest : List Char) :
    readCodes ('\\' :: mark :: rest) = (readCodes rest).map (prepend [code]) := by
  rw [readCodes, known]
  · cases readCodes rest <;> rfl
  · intro _ _ _ _ _ same
    exact absurd same other

theorem readCodes_plain {c : Char} (printable : 0x20 ≤ c.toNat) (noQuote : c ≠ '"')
    (noBackslash : c ≠ '\\') (rest : List Char) :
    readCodes (c :: rest) = (readCodes rest).map (prepend [c.toNat]) := by
  rw [readCodes, if_neg (Nat.not_lt.mpr printable)]
  · rfl
  · exact noQuote
  · intro _ _ _ _ _ same
    exact absurd same noBackslash
  · intro _ _ same
    exact absurd same noBackslash

/-- The ways in which a character is spelt. -/
inductive Spelt (c : Char) : List Char → Prop where
  | marked {mark : Char} :
    c.toNat < 0x80 →
    mark.toNat < 0x80 →
    mark ≠ 'u' →
    marks.lookup mark = some c.toNat →
    Spelt c ['\\', mark]
  | plain :
    0x20 ≤ c.toNat →
    c.toNat < 0x80 →
    c ≠ '"' →
    c ≠ '\\' →
    Spelt c [c]
  | code :
    c.toNat < 0x10000 →
    Spelt c (codeEscape c.toNat)
  | pair :
    0x10000 ≤ c.toNat →
    Spelt c (codeEscape (Utf16.halves c.toNat).1 ++ codeEscape (Utf16.halves c.toNat).2)

theorem spelt_spell (c : Char) : Spelt c (spell c) := by
  fun_cases spell c with
  | case1 isMark =>
      rcases (Bool.or_eq_true _ _).mp isMark with same | same
      · cases eq_of_beq same
        exact .marked (by decide) (by decide) (by decide) (by decide)
      · cases eq_of_beq same
        exact .marked (by decide) (by decide) (by decide) (by decide)
  | case2 _ same | case3 _ _ same | case4 _ _ _ same =>
      cases eq_of_beq same
      exact .marked (by decide) (by decide) (by decide) (by decide)
  | case5 _ _ _ _ same | case6 _ _ _ _ _ same =>
      have code := eq_of_beq same
      refine .marked ?_ (by decide) (by decide) ?_
      · omega
      · rw [code]
        decide
  | case7 noMark _ _ _ _ _ printable =>
      simp only [Bool.and_eq_true, decide_eq_true_eq] at printable
      simp only [Bool.or_eq_true, beq_iff_eq, not_or] at noMark
      exact .plain printable.1 (by omega) noMark.1 noMark.2
  | case8 _ _ _ _ _ _ _ narrow => exact .code narrow
  | case9 _ _ _ _ _ _ _ wide high low halves =>
      have spelt := Spelt.pair (c := c) (Nat.le_of_not_lt wide)
      rwa [halves] at spelt

theorem Spelt.readCodes {c : Char} {text : List Char} (spelt : Spelt c text) (rest : List Char) :
    readCodes (text ++ rest) = (readCodes rest).map (prepend (Utf16.units c.toNat)) := by
  cases spelt with
  | marked ascii _ other known =>
      rw [Utf16.units_narrow (by omega)]
      exact readCodes_mark other known rest
  | plain printable ascii noQuote noBackslash =>
      rw [Utf16.units_narrow (by omega)]
      exact readCodes_plain printable noQuote noBackslash rest
  | code narrow =>
      rw [Utf16.units_narrow narrow]
      exact readCodes_codeEscape narrow rest
  | pair wide =>
      obtain ⟨high, low⟩ := Utf16.halves_lt c
      rw [Utf16.units_wide wide, List.append_assoc, readCodes_codeEscape high, readCodes_codeEscape low,
        map_prepend_prepend]
      rfl

theorem readCodes_spelling (cs rest : List Char) :
    readCodes (cs.flatMap spell ++ '"' :: rest) = some ((cs.map Char.toNat).flatMap Utf16.units, rest) := by
  induction cs with
  | nil => rfl
  | cons c cs ih =>
      rw [List.flatMap_cons, List.append_assoc, (spelt_spell c).readCodes, ih, List.map_cons,
        List.flatMap_cons]
      rfl

theorem readString_spelling (text : String) (rest : List Char) :
    readString (text.toList.flatMap spell ++ '"' :: rest) = some (text, rest) := by
  have inRange : ∀ n ∈ text.toList.map Char.toNat, n ≤ 0x10FFFF :=
    List.forall_mem_map.mpr fun c _ => Utf16.toNat_le c
  rw [readString, readCodes_spelling]
  simp [Utf16.join_flatMap_units inRange, Utf16.join_toNat]

/-! ## Numbers -/

/-- A text that does not prolong a number in front of it. -/
def EndsNumber (rest : List Char) : Prop :=
  ∀ c ∈ rest.head?, c.isDigit = false ∧ c ≠ '.' ∧ c ≠ 'e' ∧ c ≠ 'E'

theorem readDigits_append {digits rest : List Char} (nonempty : digits ≠ [])
    (all : ∀ c ∈ digits, c.isDigit = true) (ends : EndsNumber rest) :
    readDigits (digits ++ rest) = some (digits, rest) := by
  have none : rest.takeWhile Char.isDigit = [] ∧ rest.dropWhile Char.isDigit = rest := by
    cases rest with
    | nil => exact ⟨rfl, rfl⟩
    | cons c rest =>
        have noDigit := (ends c rfl).1
        simp [noDigit]
  rw [readDigits, List.takeWhile_append_of_pos all, List.dropWhile_append_of_pos all, none.1,
    none.2, List.append_nil, if_neg]
  simpa using nonempty

theorem head_toDigits {n : Nat} (positive : 0 < n) : (Nat.toDigits 10 n).head? ≠ some '0' := by
  induction n using Nat.strongRecOn with
  | _ n ih =>
      rw [Nat.toDigits_eq_if (by decide)]
      split
      · rename_i below
        have table : ∀ d < 10, 0 < d → Nat.digitChar d ≠ '0' := by decide
        simpa using table n below positive
      · rename_i above
        -- The first digit is that of the number without its last digit.
        rw [List.head?_append_of_ne_nil _ Nat.toDigits_ne_nil]
        exact ih (n / 10) (by omega) (by omega)

theorem readWhole_toDigits (n : Nat) {rest : List Char} (ends : EndsNumber rest) :
    readWhole (Nat.toDigits 10 n ++ rest) = some (Nat.toDigits 10 n, rest) := by
  have all : ∀ c ∈ Nat.toDigits 10 n, c.isDigit = true := fun c inside =>
    Nat.isDigit_of_mem_toDigits (by decide) (by decide) inside
  rw [readWhole, readDigits_append Nat.toDigits_ne_nil all ends]
  refine if_neg ?_
  rcases Nat.eq_zero_or_pos n with rfl | positive
  · simp
  · simp [head_toDigits positive]

theorem readFraction_none {rest : List Char} (ends : EndsNumber rest) :
    readFraction rest = some ([], rest) := by
  fun_cases readFraction rest with
  | case1 rest => exact absurd rfl (ends '.' rfl).2.1
  | case2 => rfl

theorem readExponent_none {rest : List Char} (ends : EndsNumber rest) :
    readExponent rest = some (0, rest) := by
  fun_cases readExponent rest with
  | case7 => rfl
  | case1 | case3 | case5 => exact absurd rfl (ends 'e' rfl).2.2.1
  | case2 | case4 | case6 => exact absurd rfl (ends 'E' rfl).2.2.2

theorem readMagnitude_toDigits (n : Nat) {rest : List Char} (ends : EndsNumber rest) :
    readMagnitude (Nat.toDigits 10 n ++ rest) = some ((n : ℚ), rest) := by
  rw [readMagnitude, readWhole_toDigits n ends]
  simp [readFraction_none ends, readExponent_none ends, Nat.ofDigitChars_ten_toDigits]

theorem toList_toString (n : Int) :
    (toString n).toList =
      if 0 ≤ n then Nat.toDigits 10 n.toNat else '-' :: Nat.toDigits 10 (-n).toNat := by
  rw [Int.toString_eq_repr, Int.repr_eq_if]
  split <;> simp [Nat.toList_repr]

theorem toDigits_eq_cons (n : Nat) :
    ∃ digit digits, Nat.toDigits 10 n = digit :: digits ∧ digit.isDigit = true := by
  have nonempty : Nat.toDigits 10 n ≠ [] := Nat.toDigits_ne_nil
  obtain ⟨digit, digits, split⟩ := List.exists_cons_of_ne_nil nonempty
  refine ⟨digit, digits, split, Nat.isDigit_of_mem_toDigits (b := 10) (n := n) (by decide)
    (by decide) ?_⟩
  rw [split]
  exact List.mem_cons_self

theorem readNumber_toString (n : Int) {rest : List Char} (ends : EndsNumber rest) :
    readNumber ((toString n).toList ++ rest) = some ((n : ℚ), rest) := by
  rw [toList_toString]
  split
  · rename_i natural
    have magnitude := readMagnitude_toDigits n.toNat ends
    obtain ⟨digit, digits, split, isDigit⟩ := toDigits_eq_cons n.toNat
    rw [split, List.cons_append] at magnitude ⊢
    rw [readNumber, magnitude]
    · have cast : (n.toNat : ℚ) = n := by
        exact_mod_cast congrArg (Int.cast (R := ℚ)) (Int.toNat_of_nonneg natural)
      rw [cast]
    · intro _ same
      cases same
      cases isDigit
  · rename_i negative
    have cast : -((-n).toNat : ℚ) = n := by
      have positive : ((-n).toNat : Int) = -n := Int.toNat_of_nonneg (by omega)
      have := congrArg (Int.cast (R := ℚ)) positive
      push_cast at this
      rw [this, neg_neg]
    rw [List.cons_append, readNumber, readMagnitude_toDigits _ ends]
    simp only [Option.map_some, cast]

/-- The characters that a number begins with. -/
def BeginsNumber (c : Char) : Prop := c = '-' ∨ c.isDigit = true

theorem toString_eq_cons (n : Int) : ∃ c cs, (toString n).toList = c :: cs ∧ BeginsNumber c := by
  rw [toList_toString]
  split
  · obtain ⟨digit, digits, split, isDigit⟩ := toDigits_eq_cons n.toNat
    exact ⟨digit, digits, split, .inr isDigit⟩
  · exact ⟨_, _, rfl, .inl rfl⟩

theorem BeginsNumber.ne {c other : Char} (begins : BeginsNumber c)
    (different : other ≠ '-' ∧ other.isDigit = false) : c ≠ other := by
  rintro rfl
  rcases begins with minus | digit
  · exact different.1 minus
  · rw [different.2] at digit
    cases digit

end CallOrigin.Json
