import CallOrigin.Proofs.Utf8Texts
import CallOrigin.Syntax.Node
import Mathlib.Data.Nat.Find

/-! # Reading damaged bytes

Where no character can be read, the longest part that a character can begin with is given up as a
whole, or else a single byte. No character begins with a byte that another goes on with, so a decoder
that is left with a character under way gives it up where a text begins. What is read of damaged bytes
therefore does not depend on the text before or behind them.
-/

namespace CallOrigin.Utf8

/-! ## Decoders between two parts -/

/-- That a decoder does not take the next byte for one of the character under way. -/
def Decoder.Apart (d : Decoder) (rest : List UInt8) : Prop :=
  ∀ p, d.pending = some p → ∀ b, rest.head? = some b → ¬ p.Admits b

theorem Decoder.finish_foldl {d : Decoder} {rest : List UInt8} (apart : d.Apart rest) :
    (rest.foldl step d).finish = d.finish ++ decode rest := by
  have between (text : String) : (rest.foldl step ⟨text, none⟩).finish = text ++ decode rest := by
    have start : (⟨text, none⟩ : Decoder) = .behind text .initial := by simp [behind, initial]
    rw [start, foldl_behind, finish_behind, decode]
  obtain ⟨text, pending⟩ := d
  cases pending with
  | none => exact between text
  | some p =>
      cases rest with
      | nil => simp [finish, decode, initial]
      | cons b rest =>
          rw [List.foldl_cons, step_refused (apart p rfl b rfl), ← List.foldl_cons, between]
          rfl

theorem decode_append {xs ys : List UInt8} (apart : (xs.foldl Decoder.step .initial).Apart ys) :
    decode (xs ++ ys) = decode xs ++ decode ys := by
  rw [decode, List.foldl_append, Decoder.finish_foldl apart, ← decode]

/-! ## Text behind damaged bytes -/

theorem Partial.bounded_next (p : Partial) (b : UInt8) : (p.next b).Bounded := by
  have order : (0x80 : UInt8) ≤ 0xBF := by decide
  exact ⟨Nat.le_refl _, Nat.le_refl _, order⟩

namespace Decoder

/-- That a character under way, if there is one, goes on only with bytes that no character begins
    with. -/
def Bounded (d : Decoder) : Prop := ∀ p, d.pending = some p → p.Bounded

theorem bounded_of_none {d : Decoder} (nothing : d.pending = none) : d.Bounded := by
  intro p pending
  cases nothing.symm.trans pending

theorem bounded_begin (text : String) (b : UInt8) : (begin text b).Bounded := by
  cases told : Lead.ofByte b with
  | whole c => exact bounded_of_none (by simp [begin, told])
  | invalid => exact bounded_of_none (by simp [begin, told])
  | opens p =>
      intro q pending
      simp only [begin, told, Option.some.injEq] at pending
      exact pending ▸ (Lead.opened_of_opens told).2

theorem bounded_step (d : Decoder) (b : UInt8) : (step d b).Bounded := by
  obtain ⟨text, pending⟩ := d
  cases pending with
  | none => exact bounded_begin text b
  | some p =>
      by_cases admits : p.Admits b
      · rcases Nat.lt_or_ge 1 p.missing with more | last
        · rw [step_admitted admits more]
          intro q pending
          exact Option.some.inj pending ▸ p.bounded_next b
        · rw [step_last admits last]
          exact bounded_of_none rfl
      · rw [step_refused admits]
        exact bounded_begin _ b

theorem bounded_foldl (bytes : List UInt8) : (bytes.foldl step .initial).Bounded := by
  obtain rfl | ⟨front, b, rfl⟩ := List.eq_nil_or_concat' bytes
  · exact bounded_of_none rfl
  · rw [List.foldl_append]
    exact bounded_step _ b

end Decoder

theorem Lead.ofByte_eq_invalid {p : Partial} (bounded : p.Bounded) {b : UInt8}
    (admits : p.Admits b) : Lead.ofByte b = .invalid := by
  obtain ⟨low, high, _⟩ := bounded
  rw [Partial.admits_iff] at admits
  cases told : Lead.ofByte b with
  | invalid => rfl
  | whole c =>
      have small := (number_of_whole told).2
      omega
  | opens q =>
      have opened := (opened_of_opens told).1
      unfold Partial.OpenedBy at opened
      omega

/-- A text begins with no byte that a character under way could go on with. -/
theorem Decoder.Bounded.apart {d : Decoder} (bounded : d.Bounded) (t : String) :
    d.Apart (encode t) := by
  intro p pending b head admits
  have invalid := Lead.ofByte_eq_invalid (bounded p pending) admits
  cases chars : t.toList with
  | nil =>
      rw [encode, chars] at head
      cases head
  | cons c cs =>
      rw [encode, chars, List.flatMap_cons] at head
      cases encoded : String.utf8EncodeChar c with
      | nil => exact absurd encoded String.utf8EncodeChar_ne_nil
      | cons a tail =>
          rw [encoded] at head
          cases head
          rcases lead_of_utf8EncodeChar encoded with ⟨whole, _⟩ | ⟨_, opens, _⟩
          · cases invalid.symm.trans whole
          · cases invalid.symm.trans opens

theorem decode_append_encode (bytes : List UInt8) (t : String) :
    decode (bytes ++ encode t) = decode bytes ++ t := by
  rw [decode_append ((Decoder.bounded_foldl bytes).apart t), decode_encode]

/-! ## Parts that a character begins with -/

/-- That bytes are the first ones of a character, or all of them. -/
def Begins (part : List UInt8) : Prop := ∃ c, part <+: String.utf8EncodeChar c

theorem Partial.Accepts.length_le {p : Partial} {part : List UInt8} (accepts : p.Accepts part) :
    part.length ≤ p.missing := by
  induction part generalizing p with
  | nil => exact Nat.zero_le _
  | cons b part ih =>
      obtain ⟨more, _, further⟩ := accepts_cons.mp accepts
      have shorter := ih further
      rw [missing_next] at shorter
      rw [List.length_cons]
      omega

theorem Partial.Bounded.foldl {p : Partial} (bounded : p.Bounded) (part : List UInt8) :
    (part.foldl next p).Bounded := by
  induction part generalizing p with
  | nil => exact bounded
  | cons b part ih =>
      rw [List.foldl_cons]
      exact ih (bounded_next p b)

/-- A character under way can come to its end. -/
theorem Partial.Bounded.exists_rest {p : Partial} (bounded : p.Bounded) :
    ∃ rest, p.Accepts rest ∧ rest.length = p.missing := by
  induction count : p.missing generalizing p with
  | zero => exact ⟨[], accepts_nil p, rfl⟩
  | succ fewer ih =>
      have missing : (p.next p.least).missing = fewer := by
        rw [missing_next, count, Nat.add_sub_cancel]
      obtain ⟨rest, accepts, length⟩ := ih (bounded_next p p.least) missing
      have more : 0 < p.missing := by omega
      have admits : p.Admits p.least := ⟨UInt8.le_refl _, bounded.2.2⟩
      refine ⟨p.least :: rest, accepts_cons.mpr ⟨more, admits, accepts⟩, ?_⟩
      rw [List.length_cons, length]

/-- A part begins a character exactly if a decoder takes it as one. -/
theorem begins_cons_iff {a : UInt8} {part : List UInt8} :
    Begins (a :: part) ↔
      (∃ c, Lead.ofByte a = .whole c) ∧ part = [] ∨
        ∃ p, Lead.ofByte a = .opens p ∧ p.Accepts part := by
  constructor
  · rintro ⟨c, rest, encoded⟩
    rcases lead_of_utf8EncodeChar encoded.symm with ⟨whole, ended⟩ | ⟨p, opens, accepts, _⟩
    · exact .inl ⟨⟨c, whole⟩, (List.append_eq_nil_iff.mp ended).1⟩
    · exact .inr ⟨p, opens, (Partial.accepts_append_iff.mp accepts).1⟩
  · rintro (⟨⟨c, whole⟩, rfl⟩ | ⟨p, opens, accepts⟩)
    · exact ⟨c, utf8EncodeChar_of_whole whole ▸ List.prefix_rfl⟩
    · obtain ⟨rest, further, length⟩ :=
        ((Lead.opened_of_opens opens).2.foldl part).exists_rest
      have whole := Partial.accepts_append_iff.mpr ⟨accepts, further⟩
      have short := accepts.length_le
      refine ⟨_, rest, (utf8EncodeChar_of_accepts opens whole ?_).symm⟩
      rw [List.length_append, length, Partial.missing_foldl]
      omega

/-- The part at the front of bytes that is given up as a whole where no character can be read: all
    that a character can begin with, or a single byte. -/
structure MaximalPart (part bytes : List UInt8) : Prop where
  front : part <+: bytes
  nonempty : part ≠ []
  begun : Begins part ∨ part.length = 1
  longest : ∀ longer, longer <+: bytes → Begins longer → longer.length ≤ part.length

theorem exists_maximalPart {bytes : List UInt8} (nonempty : bytes ≠ []) :
    ∃ part rest, bytes = part ++ rest ∧ MaximalPart part bytes := by
  classical
  let count := Nat.findGreatest (fun n => Begins (bytes.take n)) bytes.length
  have within : count ≤ bytes.length := Nat.findGreatest_le _
  have some_ := List.length_pos_iff.mpr nonempty
  have length : (bytes.take (max 1 count)).length = max 1 count := by
    rw [List.length_take]
    omega
  refine ⟨bytes.take (max 1 count), bytes.drop (max 1 count), (List.take_append_drop ..).symm,
    List.take_prefix .., ?_, ?_, ?_⟩
  · rw [← List.length_pos_iff]
    omega
  · rcases Nat.eq_zero_or_pos count with none | found
    · right
      omega
    · left
      rw [Nat.max_eq_right found]
      exact Nat.findGreatest_of_ne_zero rfl (Nat.pos_iff_ne_zero.mp found)
  · intro longer front begins
    rw [List.prefix_iff_eq_take.mp front] at begins
    have le := Nat.le_findGreatest (P := fun n => Begins (bytes.take n)) front.length_le begins
    rw [length]
    exact Nat.le_trans le (Nat.le_max_right ..)

/-! ## What is read -/

/-- What is read of bytes: the characters that they encode, and one replacement character for each
    part in between that is given up. -/
inductive Reads : List UInt8 → List Char → Prop where
  | nil : Reads [] []
  | char {c : Char} {rest : List UInt8} {cs : List Char} :
    Reads rest cs → Reads (String.utf8EncodeChar c ++ rest) (c :: cs)
  | damaged {part rest : List UInt8} {cs : List Char} :
    (∀ c, ¬ String.utf8EncodeChar c <+: part ++ rest) →
    MaximalPart part (part ++ rest) →
    Reads rest cs → Reads (part ++ rest) (replacement :: cs)

theorem decode_char (c : Char) (rest : List UInt8) :
    decode (String.utf8EncodeChar c ++ rest) = String.singleton c ++ decode rest := by
  have one : encode (String.singleton c) = String.utf8EncodeChar c := by simp [encode]
  rw [← one, decode_encode_append]

/-- A single byte that no character begins with is given up. -/
theorem decode_invalid {a : UInt8} (invalid : Lead.ofByte a = .invalid) (rest : List UInt8) :
    decode (a :: rest) = String.singleton replacement ++ decode rest := by
  have given : [a].foldl Decoder.step .initial = ⟨String.singleton replacement, none⟩ := by
    simp [Decoder.step, Decoder.initial, Decoder.begin, invalid]
  have apart : ([a].foldl Decoder.step .initial).Apart rest := by
    rw [given]
    intro p pending
    cases pending
  rw [← List.singleton_append, decode_append apart, decode, given]
  rfl

/-- A part that a decoder takes is given up if it is no whole character and cannot be prolonged. -/
theorem decode_begun {a : UInt8} {p : Partial} {tail rest : List UInt8}
    (opens : Lead.ofByte a = .opens p) (accepts : p.Accepts tail) (short : tail.length < p.missing)
    (ended : ∀ b, rest.head? = some b → ¬ Begins (a :: (tail ++ [b]))) :
    decode (a :: tail ++ rest) = String.singleton replacement ++ decode rest := by
  have left : (a :: tail).foldl Decoder.step .initial =
      ⟨"", some (tail.foldl Partial.next p)⟩ := by
    have opened : Decoder.step .initial a = ⟨"", some p⟩ := by
      simp [Decoder.step, Decoder.initial, Decoder.begin, opens]
    rw [List.foldl_cons, opened, Decoder.foldl_accepted accepts short]
  have apart : ((a :: tail).foldl Decoder.step .initial).Apart rest := by
    rw [left]
    rintro q ⟨⟩ b head admits
    have more : 0 < (tail.foldl Partial.next p).missing := by
      rw [Partial.missing_foldl]
      omega
    have further := Partial.accepts_append_iff.mpr
      ⟨accepts, Partial.accepts_cons.mpr ⟨more, admits, Partial.accepts_nil _⟩⟩
    exact ended b head (begins_cons_iff.mpr (.inr ⟨p, opens, further⟩))
  rw [decode_append apart, decode, left]
  rfl

theorem decode_damaged {part rest : List UInt8}
    (unread : ∀ c, ¬ String.utf8EncodeChar c <+: part ++ rest)
    (maximal : MaximalPart part (part ++ rest)) :
    decode (part ++ rest) = String.singleton replacement ++ decode rest := by
  obtain ⟨_, nonempty, begun, longest⟩ := maximal
  obtain ⟨a, tail, rfl⟩ := List.exists_cons_of_ne_nil nonempty
  cases told : Lead.ofByte a with
  | whole c =>
      refine absurd ?_ (unread c)
      rw [utf8EncodeChar_of_whole told]
      exact List.prefix_append [a] (tail ++ rest)
  | invalid =>
      have single : tail = [] := by
        rcases begun with begins | one
        · rcases begins_cons_iff.mp begins with ⟨⟨c, whole⟩, _⟩ | ⟨p, opens, _⟩
          · cases told.symm.trans whole
          · cases told.symm.trans opens
        · simpa using one
      subst single
      exact decode_invalid told rest
  | opens p =>
      have accepts : p.Accepts tail := by
        rcases begun with begins | one
        · rcases begins_cons_iff.mp begins with ⟨⟨c, whole⟩, _⟩ | ⟨q, opens, accepts⟩
          · cases told.symm.trans whole
          · cases told.symm.trans opens
            exact accepts
        · have ended : tail = [] := by simpa using one
          exact ended ▸ p.accepts_nil
      refine decode_begun told accepts (Nat.lt_of_le_of_ne accepts.length_le ?_) ?_
      · intro whole
        refine unread (Char.ofNat (tail.foldl Partial.next p).bits) ?_
        rw [utf8EncodeChar_of_accepts told accepts whole]
        exact List.prefix_append ..
      · intro b head begins
        obtain ⟨after, rfl⟩ := List.head?_eq_some_iff.mp head
        have bound := longest (a :: (tail ++ [b])) ⟨after, by simp⟩ begins
        simp only [List.length_cons, List.length_append, List.length_nil] at bound
        omega

theorem reads_decode (bytes : List UInt8) : Reads bytes (decode bytes).toList := by
  induction size : bytes.length using Nat.strongRecOn generalizing bytes with
  | ind size ih =>
  subst size
  by_cases empty : bytes = []
  · subst empty
    exact .nil
  by_cases readable : ∃ c, String.utf8EncodeChar c <+: bytes
  · obtain ⟨c, rest, rfl⟩ := readable
    have shorter : rest.length < (String.utf8EncodeChar c ++ rest).length := by
      have := List.length_pos_iff.mpr (String.utf8EncodeChar_ne_nil (c := c))
      rw [List.length_append]
      omega
    rw [decode_char, String.toList_append, String.toList_singleton]
    exact .char (ih _ shorter rest rfl)
  · obtain ⟨part, rest, rfl, maximal⟩ := exists_maximalPart empty
    have unread : ∀ c, ¬ String.utf8EncodeChar c <+: part ++ rest := fun c front =>
      readable ⟨c, front⟩
    have shorter : rest.length < (part ++ rest).length := by
      have := List.length_pos_iff.mpr maximal.nonempty
      rw [List.length_append]
      omega
    rw [decode_damaged unread maximal, String.toList_append, String.toList_singleton]
    exact .damaged unread maximal (ih _ shorter rest rfl)

theorem Reads.decode_eq {bytes : List UInt8} {cs : List Char} (reads : Reads bytes cs) :
    decode bytes = String.ofList cs := by
  induction reads with
  | nil => rfl
  | @char c rest cs _ ih =>
      rw [decode_char, ih, ← String.toList_inj]
      simp
  | damaged unread maximal _ ih =>
      rw [decode_damaged unread maximal, ih, ← String.toList_inj]
      simp

theorem decode_eq_iff_reads {bytes : List UInt8} {text : String} :
    decode bytes = text ↔ Reads bytes text.toList := by
  constructor
  · rintro rfl
    exact reads_decode bytes
  · intro reads
    rw [reads.decode_eq, String.ofList_toList]

/-! ## Nodes -/

theorem toByteArray_encode (s : String) : (encode s).toByteArray = s.toByteArray := by
  rw [encode, ← List.utf8Encode, ← String.toByteArray_ofList, String.ofList_toList]

theorem length_encode (s : String) : (encode s).length = s.utf8ByteSize := by
  rw [← List.size_toByteArray, toByteArray_encode, String.size_toByteArray]

theorem encode_append (s t : String) : encode (s ++ t) = encode s ++ encode t := by
  simp [encode]

/-- A node that begins and ends between two characters has the text between. -/
theorem text_between (n : Node) {front inside back : String}
    (start : n.start = front.utf8ByteSize) (stop : n.stop = (front ++ inside).utf8ByteSize) :
    n.text (encode (front ++ inside ++ back)) = inside := by
  have bytes : encode (front ++ inside ++ back) = encode front ++ (encode inside ++ encode back) := by
    rw [encode_append, encode_append, List.append_assoc]
  have size : n.stop - n.start = (encode inside).length := by
    rw [stop, start, String.utf8ByteSize_append, Nat.add_sub_cancel_left, length_encode]
  rw [Node.text, size, start, ← length_encode, bytes, List.drop_left, List.take_left, decode_encode]

/-- Damaged bytes do not swallow the text around them. What is read is the characters of the bytes,
    with one replacement character for each longest part that cannot be one, and a text before or
    behind any bytes is read as if it stood alone. So a node of a text that begins and ends between
    two characters has exactly what is between. -/
theorem decode_around_damage :
    (∀ (bytes : List UInt8) (text : String), decode bytes = text ↔ Reads bytes text.toList) ∧
    (∀ (s t : String) (bytes : List UInt8),
      decode (encode s ++ bytes ++ encode t) = s ++ decode bytes ++ t) ∧
    ∀ (n : Node) (front inside back : String), n.start = front.utf8ByteSize →
      n.stop = (front ++ inside).utf8ByteSize →
      n.text (encode (front ++ inside ++ back)) = inside := by
  refine ⟨fun bytes text => decode_eq_iff_reads, ?_, ?_⟩
  · intro s t bytes
    rw [List.append_assoc, decode_encode_append, decode_append_encode, String.append_assoc]
  · intro n front inside back start stop
    exact text_between n start stop

/-- A character cut short before one that could have gone on, and a node inside of a text. -/
theorem decode_around_damage_cut_short :
    decode (encode "a" ++ [0xE2, 0x82, 0xF0, 0x80] ++ encode "é") = "a���é" ∧
    (⟨"identifier", true, none, 1, 3, ⟨0, 1⟩, []⟩ : Node).text (encode ("a" ++ "é" ++ "€")) = "é" := by
  obtain ⟨_, around, nodes⟩ := decode_around_damage
  refine ⟨?_, nodes _ "a" "é" "€" (by decide) (by decide)⟩
  rw [around]
  decide

end CallOrigin.Utf8
