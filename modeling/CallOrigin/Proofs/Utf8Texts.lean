import CallOrigin.Proofs.Surrogates
import CallOrigin.Text.Utf8

/-! # Reading what was encoded

The first byte of a character tells how many others there are and which the second can be. A decoder
takes exactly these, so the bytes of a character lead it from between two characters to between two
characters, with that character read. Decoding therefore undoes encoding, and it does so in the middle
of other bytes as long as no character is under way there.
-/

namespace CallOrigin.Utf8

/-! ## Bytes that a character goes on with -/

/-- A byte that carries six more bits of the character under way. -/
def tailByte (n : Nat) : UInt8 := UInt8.ofNat (n % 0x40 + 0x80)

theorem toNat_tailByte (n : Nat) : (tailByte n).toNat = n % 0x40 + 0x80 := by
  simp only [tailByte, UInt8.toNat_ofNat']
  omega

theorem tailByte_eq {b : UInt8} (low : 0x80 ≤ b.toNat) (high : b.toNat ≤ 0xBF) (n : Nat) :
    tailByte (n * 0x40 + (b.toNat - 0x80)) = b := by
  rw [← UInt8.toNat_inj, toNat_tailByte]
  omega

namespace Partial

/-- A character under way after one more byte. -/
def next (p : Partial) (b : UInt8) : Partial :=
  ⟨p.bits * 0x40 + (b.toNat - 0x80), p.missing - 1, 0x80, 0xBF⟩

theorem missing_next (p : Partial) (b : UInt8) : (p.next b).missing = p.missing - 1 := rfl

theorem bits_next (p : Partial) (b : UInt8) :
    (p.next b).bits = p.bits * 0x40 + (b.toNat - 0x80) := rfl

/-- That a byte can be the next one of a character under way. -/
def Admits (p : Partial) (b : UInt8) : Prop := p.least ≤ b ∧ b ≤ p.greatest

theorem admits_iff {p : Partial} {b : UInt8} :
    p.Admits b ↔ p.least.toNat ≤ b.toNat ∧ b.toNat ≤ p.greatest.toNat := by
  rw [Admits, UInt8.le_iff_toNat_le, UInt8.le_iff_toNat_le]

theorem admits_next_iff {p : Partial} {b d : UInt8} :
    (p.next b).Admits d ↔ 0x80 ≤ d.toNat ∧ d.toNat ≤ 0xBF := admits_iff

theorem admits_tailByte {p : Partial} {n : Nat} (low : p.least.toNat ≤ n % 0x40 + 0x80)
    (high : n % 0x40 + 0x80 ≤ p.greatest.toNat) : p.Admits (tailByte n) := by
  rw [admits_iff, toNat_tailByte]
  exact ⟨low, high⟩

theorem next_admits_tailByte (p : Partial) (b : UInt8) (n : Nat) :
    (p.next b).Admits (tailByte n) := by
  rw [admits_next_iff, toNat_tailByte]
  omega

/-- That a character under way can go on with bytes, or end with the last of them. -/
def Accepts : Partial → List UInt8 → Prop
  | _, [] => True
  | p, b :: rest => 0 < p.missing ∧ p.Admits b ∧ (p.next b).Accepts rest

theorem accepts_nil (p : Partial) : p.Accepts [] := trivial

theorem accepts_cons {p : Partial} {b : UInt8} {rest : List UInt8} :
    p.Accepts (b :: rest) ↔ 0 < p.missing ∧ p.Admits b ∧ (p.next b).Accepts rest := Iff.rfl

theorem accepts_append_iff {p : Partial} {part rest : List UInt8} :
    p.Accepts (part ++ rest) ↔ p.Accepts part ∧ (part.foldl next p).Accepts rest := by
  induction part generalizing p with
  | nil => simp [accepts_nil]
  | cons b part ih => simp only [List.cons_append, accepts_cons, ih, List.foldl_cons, and_assoc]

theorem missing_foldl (p : Partial) (part : List UInt8) :
    (part.foldl next p).missing = p.missing - part.length := by
  induction part generalizing p with
  | nil => rfl
  | cons b part ih =>
      rw [List.foldl_cons, ih, List.length_cons, missing_next]
      omega

/-- That a character under way can go on, and only with bytes that no character begins with. -/
def Bounded (p : Partial) : Prop :=
  0x80 ≤ p.least.toNat ∧ p.greatest.toNat ≤ 0xBF ∧ p.least ≤ p.greatest

/-- That a character under way has the bits of its first byte, and that the bounds on the second
    shut out shorter characters, halves of pairs and what is beyond the last code point. -/
def OpenedBy (p : Partial) (first : Nat) : Prop :=
  p.missing = 1 ∧ p.bits + 0xC0 = first ∧ 2 ≤ p.bits ∧ p.bits < 0x20 ∨
  p.missing = 2 ∧ p.bits + 0xE0 = first ∧ p.bits < 0x10 ∧
    (p.bits = 0 → 0xA0 ≤ p.least.toNat) ∧ (p.bits = 0xD → p.greatest.toNat ≤ 0x9F) ∨
  p.missing = 3 ∧ p.bits + 0xF0 = first ∧ p.bits < 5 ∧
    (p.bits = 0 → 0x90 ≤ p.least.toNat) ∧ (p.bits = 4 → p.greatest.toNat ≤ 0x8F)

end Partial

/-! ## Bytes that a character begins with -/

namespace Lead

/-- What the number of a byte tells that stands at the beginning of a character. -/
def Fits (first : Nat) : Lead → Prop
  | .whole c => c.toNat = first ∧ first < 0x80
  | .opens p => p.OpenedBy first ∧ p.Bounded
  | .invalid => 0x80 ≤ first

instance (first : Nat) : (lead : Lead) → Decidable (lead.Fits first)
  | .whole _ => inferInstanceAs (Decidable (_ ∧ _))
  | .opens _ => inferInstanceAs (Decidable ((_ ∨ _ ∨ _) ∧ _ ∧ _ ∧ _))
  | .invalid => inferInstanceAs (Decidable (_ ≤ _))

theorem fits_ofByte (a : UInt8) : (ofByte a).Fits a.toNat := by
  have all : ∀ n < 0x100, (ofByte (UInt8.ofNat n)).Fits n := by decide +kernel
  have told := all a.toNat a.toNat_lt
  rwa [UInt8.ofNat_toNat] at told

theorem number_of_whole {a : UInt8} {c : Char} (whole : ofByte a = .whole c) :
    c.toNat = a.toNat ∧ a.toNat < 0x80 := by
  have fits := fits_ofByte a
  rwa [whole] at fits

theorem opened_of_opens {a : UInt8} {p : Partial} (opens : ofByte a = .opens p) :
    p.OpenedBy a.toNat ∧ p.Bounded := by
  have fits := fits_ofByte a
  rwa [opens] at fits

theorem ofByte_one : ∀ n < 0x80, ofByte (UInt8.ofNat n) = .whole (Char.ofNat n) := by
  decide

theorem ofByte_two : ∀ n < 0x20, 2 ≤ n →
    ofByte (UInt8.ofNat (n + 0xC0)) = .opens ⟨n, 1, 0x80, 0xBF⟩ := by
  decide

theorem ofByte_three : ∀ n < 0x10, ofByte (UInt8.ofNat (n + 0xE0)) =
    .opens ⟨n, 2, if n = 0 then 0xA0 else 0x80, if n = 0xD then 0x9F else 0xBF⟩ := by
  decide

theorem ofByte_four : ∀ n < 5, ofByte (UInt8.ofNat (n + 0xF0)) =
    .opens ⟨n, 3, if n = 0 then 0x90 else 0x80, if n = 4 then 0x8F else 0xBF⟩ := by
  decide

end Lead

/-! ## The bytes of a character -/

theorem utf8EncodeChar_eq (c : Char) :
    String.utf8EncodeChar c =
      if c.toNat ≤ 0x7F then [UInt8.ofNat c.toNat]
      else if c.toNat ≤ 0x7FF then
        [UInt8.ofNat (c.toNat / 0x40 % 0x20 + 0xC0), tailByte c.toNat]
      else if c.toNat ≤ 0xFFFF then
        [UInt8.ofNat (c.toNat / 0x1000 % 0x10 + 0xE0), tailByte (c.toNat / 0x40), tailByte c.toNat]
      else
        [UInt8.ofNat (c.toNat / 0x40000 % 0x08 + 0xF0), tailByte (c.toNat / 0x1000),
          tailByte (c.toNat / 0x40), tailByte c.toNat] :=
  rfl

theorem utf8EncodeChar_inj {c d : Char}
    (same : String.utf8EncodeChar c = String.utf8EncodeChar d) : c = d := by
  have bytes : (String.ofList [c]).toByteArray = (String.ofList [d]).toByteArray := by
    simp [List.utf8Encode, same]
  simpa using String.ofList_injective (String.toByteArray_inj.mp bytes)

theorem utf8EncodeChar_of_whole {a : UInt8} {c : Char} (whole : Lead.ofByte a = .whole c) :
    String.utf8EncodeChar c = [a] := by
  obtain ⟨number, small⟩ := Lead.number_of_whole whole
  rw [utf8EncodeChar_eq, if_pos (by omega), number, UInt8.ofNat_toNat]

/-- A character that has come to its end is encoded by the bytes read. -/
theorem utf8EncodeChar_of_accepts {a : UInt8} {p : Partial} {tail : List UInt8}
    (opens : Lead.ofByte a = .opens p) (accepts : p.Accepts tail)
    (whole : tail.length = p.missing) :
    String.utf8EncodeChar (Char.ofNat (tail.foldl Partial.next p).bits) = a :: tail := by
  have number {n : Nat} (le : n ≤ 0x10FFFF) (scalar : n < 0xD800 ∨ 0xE000 ≤ n) :
      (Char.ofNat n).toNat = n :=
    Utf16.toNat_ofNat_of_whole le ((Utf16.isHalf_eq_false_iff n).mpr scalar)
  have lead {n : Nat} (same : n = a.toNat) : UInt8.ofNat n = a := by rw [same, UInt8.ofNat_toNat]
  obtain ⟨opened, low, high, _⟩ := Lead.opened_of_opens opens
  rcases opened with ⟨missing, first, range⟩ | ⟨missing, first, range, short, half⟩ |
    ⟨missing, first, range, short, far⟩
  · rw [missing, List.length_eq_one_iff] at whole
    obtain ⟨b, rfl⟩ := whole
    obtain ⟨_, within, _⟩ := Partial.accepts_cons.mp accepts
    rw [Partial.admits_iff] at within
    simp only [List.foldl_cons, List.foldl_nil, Partial.bits_next]
    rw [utf8EncodeChar_eq, number (by omega) (by omega), if_neg (by omega), if_pos (by omega),
      lead (by omega), tailByte_eq (by omega) (by omega)]
  · rw [missing, List.length_eq_two] at whole
    obtain ⟨b, d, rfl⟩ := whole
    obtain ⟨_, within, further⟩ := Partial.accepts_cons.mp accepts
    obtain ⟨_, within', _⟩ := Partial.accepts_cons.mp further
    rw [Partial.admits_iff] at within
    rw [Partial.admits_next_iff] at within'
    simp only [List.foldl_cons, List.foldl_nil, Partial.bits_next]
    generalize second : p.bits * 0x40 + (b.toNat - 0x80) = n
    have shifted : (n * 0x40 + (d.toNat - 0x80)) / 0x40 = n := by omega
    rw [utf8EncodeChar_eq, number (by omega) (by omega), if_neg (by omega), if_neg (by omega),
      if_pos (by omega), lead (by omega), shifted, tailByte_eq (by omega) (by omega), ← second,
      tailByte_eq (by omega) (by omega)]
  · rw [missing, List.length_eq_three] at whole
    obtain ⟨b, d, e, rfl⟩ := whole
    obtain ⟨_, within, further⟩ := Partial.accepts_cons.mp accepts
    obtain ⟨_, within', further'⟩ := Partial.accepts_cons.mp further
    obtain ⟨_, within'', _⟩ := Partial.accepts_cons.mp further'
    rw [Partial.admits_iff] at within
    rw [Partial.admits_next_iff] at within' within''
    simp only [List.foldl_cons, List.foldl_nil, Partial.bits_next]
    generalize second : p.bits * 0x40 + (b.toNat - 0x80) = n
    have shifted : ((n * 0x40 + (d.toNat - 0x80)) * 0x40 + (e.toNat - 0x80)) / 0x40 =
        n * 0x40 + (d.toNat - 0x80) := by omega
    have shifted' : ((n * 0x40 + (d.toNat - 0x80)) * 0x40 + (e.toNat - 0x80)) / 0x1000 = n := by
      omega
    rw [utf8EncodeChar_eq, number (by omega) (by omega), if_neg (by omega), if_neg (by omega),
      if_neg (by omega), lead (by omega), shifted', shifted, tailByte_eq (by omega) (by omega),
      tailByte_eq (by omega) (by omega), ← second, tailByte_eq (by omega) (by omega)]

/-- The first byte of a character tells the number of the others, and these are accepted. -/
theorem lead_of_utf8EncodeChar {c : Char} {a : UInt8} {tail : List UInt8}
    (encoded : String.utf8EncodeChar c = a :: tail) :
    Lead.ofByte a = .whole c ∧ tail = [] ∨
      ∃ p, Lead.ofByte a = .opens p ∧ p.Accepts tail ∧ tail.length = p.missing := by
  have scalar := (Utf16.isHalf_eq_false_iff _).mp (Utf16.isHalf_toNat c)
  have bound := Utf16.toNat_le c
  have low (n : Nat) : (0x80 : UInt8).toNat ≤ n % 0x40 + 0x80 := Nat.le_add_left ..
  have high (n : Nat) : n % 0x40 + 0x80 ≤ (0xBF : UInt8).toNat := by
    change _ ≤ 0xBF
    omega
  rw [utf8EncodeChar_eq] at encoded
  split at encoded
  next one =>
    cases encoded
    left
    rw [Lead.ofByte_one c.toNat (by omega), Char.ofNat_toNat]
    exact ⟨rfl, rfl⟩
  right
  split at encoded
  next two =>
    cases encoded
    refine ⟨_, Lead.ofByte_two (c.toNat / 0x40 % 0x20) (by omega) (by omega), ?_, rfl⟩
    exact ⟨Nat.succ_pos _, Partial.admits_tailByte (low _) (high _), Partial.accepts_nil _⟩
  split at encoded
  next three =>
    cases encoded
    refine ⟨_, Lead.ofByte_three (c.toNat / 0x1000 % 0x10) (by omega), ?_, rfl⟩
    refine ⟨Nat.succ_pos _, Partial.admits_tailByte ?_ ?_, Nat.succ_pos _,
      Partial.next_admits_tailByte _ _ _, Partial.accepts_nil _⟩
    · dsimp only
      split
      · change 0xA0 ≤ _
        omega
      · exact low _
    · dsimp only
      split
      · change _ ≤ 0x9F
        omega
      · exact high _
  next four =>
    cases encoded
    refine ⟨_, Lead.ofByte_four (c.toNat / 0x40000 % 0x08) (by omega), ?_, rfl⟩
    refine ⟨Nat.succ_pos _, Partial.admits_tailByte ?_ ?_, Nat.succ_pos _,
      Partial.next_admits_tailByte _ _ _, Nat.succ_pos _, Partial.next_admits_tailByte _ _ _,
      Partial.accepts_nil _⟩
    · dsimp only
      split
      · change 0x90 ≤ _
        omega
      · exact low _
    · dsimp only
      split
      · change _ ≤ 0x8F
        omega
      · exact high _

/-! ## Reading a character -/

namespace Decoder

variable {text : String} {p : Partial} {b : UInt8}

theorem step_admitted (admits : p.Admits b) (more : 1 < p.missing) :
    step ⟨text, some p⟩ b = ⟨text, some (p.next b)⟩ :=
  (if_pos admits).trans (if_neg (Nat.not_le_of_lt more))

/-- The last byte of a character ends it. -/
theorem step_last (admits : p.Admits b) (last : p.missing ≤ 1) :
    step ⟨text, some p⟩ b = ⟨text.push (Char.ofNat (p.next b).bits), none⟩ :=
  (if_pos admits).trans (if_pos last)

/-- A byte that a character cannot go on with is read as if that character had ended. -/
theorem step_refused (refuses : ¬ p.Admits b) :
    step ⟨text, some p⟩ b = step ⟨text.push replacement, none⟩ b :=
  if_neg refuses

theorem foldl_accepted {part : List UInt8} (accepts : p.Accepts part)
    (short : part.length < p.missing) :
    part.foldl step ⟨text, some p⟩ = ⟨text, some (part.foldl Partial.next p)⟩ := by
  induction part generalizing p with
  | nil => rfl
  | cons b part ih =>
      obtain ⟨_, admits, further⟩ := Partial.accepts_cons.mp accepts
      rw [List.length_cons] at short
      have shorter : part.length < (p.next b).missing := by
        rw [Partial.missing_next]
        omega
      rw [List.foldl_cons, step_admitted admits (by omega), ih further shorter, List.foldl_cons]

/-- The bytes that end a character are read as that character. -/
theorem foldl_whole {tail : List UInt8} (accepts : p.Accepts tail) (nonempty : tail ≠ [])
    (whole : tail.length = p.missing) :
    tail.foldl step ⟨text, some p⟩ =
      ⟨text.push (Char.ofNat (tail.foldl Partial.next p).bits), none⟩ := by
  obtain rfl | ⟨part, b, rfl⟩ := List.eq_nil_or_concat' tail
  · exact absurd rfl nonempty
  rw [List.length_append, List.length_singleton] at whole
  obtain ⟨front, _, admits, _⟩ := Partial.accepts_append_iff.mp accepts
  have last : (part.foldl Partial.next p).missing ≤ 1 := by
    rw [Partial.missing_foldl]
    omega
  simp only [List.foldl_append, List.foldl_cons, List.foldl_nil]
  rw [foldl_accepted front (by omega), step_last admits last]

/-- The bytes of a character are read as that character. -/
theorem foldl_utf8EncodeChar (text : String) (c : Char) :
    (String.utf8EncodeChar c).foldl step ⟨text, none⟩ = ⟨text.push c, none⟩ := by
  cases encoded : String.utf8EncodeChar c with
  | nil => exact absurd encoded String.utf8EncodeChar_ne_nil
  | cons a tail =>
      rw [List.foldl_cons]
      rcases lead_of_utf8EncodeChar encoded with ⟨whole, rfl⟩ | ⟨p, opens, accepts, length⟩
      · simp [step, begin, whole]
      · have same := utf8EncodeChar_inj ((utf8EncodeChar_of_accepts opens accepts length).trans
          encoded.symm)
        have opened : step ⟨text, none⟩ a = ⟨text, some p⟩ := by simp [step, begin, opens]
        rw [opened, foldl_whole accepts ?_ length, same]
        rintro rfl
        have missing := (Lead.opened_of_opens opens).1
        rw [List.length_nil] at length
        unfold Partial.OpenedBy at missing
        omega

end Decoder

/-! ## Text already read -/

/-- A decoder that had read a text before. -/
def Decoder.behind (before : String) (d : Decoder) : Decoder := ⟨before ++ d.text, d.pending⟩

theorem append_push (before text : String) (c : Char) :
    (before ++ text).push c = before ++ text.push c := by
  rw [String.push_eq_append, String.push_eq_append, String.append_assoc]

theorem Decoder.begin_behind (before text : String) (b : UInt8) :
    begin (before ++ text) b = behind before (begin text b) := by
  unfold begin
  split
  · rw [append_push]
    rfl
  · rfl
  · rw [append_push]
    rfl

theorem Decoder.step_behind (before : String) (d : Decoder) (b : UInt8) :
    step (behind before d) b = behind before (step d b) := by
  obtain ⟨text, pending⟩ := d
  cases pending with
  | none => exact begin_behind before text b
  | some part =>
      simp only [behind, step]
      split
      · split
        · rw [append_push]
        · rfl
      · rw [append_push]
        exact begin_behind before _ b

theorem Decoder.foldl_behind (before : String) (bytes : List UInt8) (d : Decoder) :
    bytes.foldl step (behind before d) = behind before (bytes.foldl step d) := by
  induction bytes generalizing d with
  | nil => rfl
  | cons b bytes ih => rw [List.foldl_cons, step_behind, ih, List.foldl_cons]

theorem Decoder.finish_behind (before : String) (d : Decoder) :
    (behind before d).finish = before ++ d.finish := by
  obtain ⟨text, pending⟩ := d
  cases pending with
  | none => rfl
  | some part => exact append_push before text _

/-! ## Whole texts -/

theorem foldl_flatMap_utf8EncodeChar (cs : List Char) (text : String) :
    (cs.flatMap String.utf8EncodeChar).foldl Decoder.step ⟨text, none⟩ =
      ⟨text ++ String.ofList cs, none⟩ := by
  induction cs generalizing text with
  | nil => simp
  | cons c cs ih =>
      rw [List.flatMap_cons, List.foldl_append, Decoder.foldl_utf8EncodeChar, ih]
      have joined : text.push c ++ String.ofList cs = text ++ String.ofList (c :: cs) := by
        rw [← String.toList_inj]
        simp
      rw [joined]

/-- What is encoded is read as it was, whatever bytes come behind it. -/
theorem decode_encode_append (s : String) (bytes : List UInt8) :
    decode (encode s ++ bytes) = s ++ decode bytes := by
  have start : (⟨s, none⟩ : Decoder) = .behind s .initial := by
    simp [Decoder.behind, Decoder.initial]
  rw [decode, encode, List.foldl_append, Decoder.initial, foldl_flatMap_utf8EncodeChar,
    String.empty_append, String.ofList_toList, start, Decoder.foldl_behind, Decoder.finish_behind,
    decode]

/-- Decoding undoes encoding. -/
theorem decode_encode (s : String) : decode (encode s) = s := by
  rw [decode, encode, Decoder.initial, foldl_flatMap_utf8EncodeChar, String.ofList_toList]
  simp [Decoder.finish]

end CallOrigin.Utf8
