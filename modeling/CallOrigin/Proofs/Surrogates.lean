import CallOrigin.Text.Utf16
import Mathlib.Data.List.Basic

/-! # Halves of pairs

A list of code points stands for a text when every pair of halves in it is read as the character
that the pair encodes, every half left alone as the replacement character, and every other code
point as itself. Joining gives that text, and a text has no other. Encoding code points in UTF-16 and
decoding the bytes is joining them.
-/

namespace CallOrigin.Utf16

/-! ## Characters as code points -/

def isHalf (n : Nat) : Bool := isHigh n || isLow n

theorem isHigh_iff (n : Nat) : isHigh n = true ↔ 0xD800 ≤ n ∧ n < 0xDC00 := by simp [isHigh]

theorem isLow_iff (n : Nat) : isLow n = true ↔ 0xDC00 ≤ n ∧ n < 0xE000 := by simp [isLow]

theorem isHalf_iff (n : Nat) : isHalf n = true ↔ 0xD800 ≤ n ∧ n < 0xE000 := by
  rw [isHalf, Bool.or_eq_true, isHigh_iff, isLow_iff]
  omega

theorem isHalf_eq_false_iff (n : Nat) : isHalf n = false ↔ n < 0xD800 ∨ 0xE000 ≤ n := by
  rw [← Bool.not_eq_true, isHalf_iff]
  omega

theorem toNat_ofNat_of_whole {n : Nat} (inRange : n ≤ 0x10FFFF) (whole : isHalf n = false) :
    (Char.ofNat n).toNat = n := by
  have valid : n.isValidChar := by
    rw [isHalf_eq_false_iff] at whole
    unfold Nat.isValidChar
    omega
  rw [Char.ofNat, dif_pos valid]
  rfl

theorem toNat_le (c : Char) : c.toNat ≤ 0x10FFFF := by
  have valid : c.toNat.isValidChar := c.valid
  unfold Nat.isValidChar at valid
  omega

theorem isHalf_toNat (c : Char) : isHalf c.toNat = false := by
  have valid : c.toNat.isValidChar := c.valid
  rw [isHalf_eq_false_iff]
  unfold Nat.isValidChar at valid
  omega

theorem toChar_of_half {n : Nat} (half : isHalf n = true) : toChar n = '�' := if_pos half

theorem toChar_of_whole {n : Nat} (whole : isHalf n = false) : toChar n = Char.ofNat n :=
  if_neg (Bool.eq_false_iff.mp whole)

/-! ## Characters as pairs -/

theorem isHigh_halves {n : Nat} (inRange : n ≤ 0x10FFFF) : isHigh (halves n).1 = true := by
  rw [isHigh_iff]
  unfold halves
  omega

theorem isLow_halves (n : Nat) : isLow (halves n).2 = true := by
  rw [isLow_iff]
  unfold halves
  omega

theorem halves_lt (c : Char) :
    (halves c.toNat).1 < 0x10000 ∧ (halves c.toNat).2 < 0x10000 := by
  have high := (isHigh_iff _).mp (isHigh_halves (toNat_le c))
  have low := (isLow_iff _).mp (isLow_halves c.toNat)
  omega

theorem pair_halves {n : Nat} (wide : 0x10000 ≤ n) : pair (halves n).1 (halves n).2 = n := by
  unfold pair halves
  omega

theorem halves_pair {high low : Nat} (isHigh_high : isHigh high = true)
    (isLow_low : isLow low = true) : halves (pair high low) = (high, low) := by
  rw [isHigh_iff] at isHigh_high
  rw [isLow_iff] at isLow_low
  unfold pair halves
  refine Prod.ext ?_ ?_
  · omega
  · omega

theorem pair_bounds {high low : Nat} (isHigh_high : isHigh high = true)
    (isLow_low : isLow low = true) : 0x10000 ≤ pair high low ∧ pair high low ≤ 0x10FFFF := by
  rw [isHigh_iff] at isHigh_high
  rw [isLow_iff] at isLow_low
  unfold pair
  omega

/-! ## Joining -/

/-- Joins the pairs in a list of code points and replaces the halves left alone. -/
def join : List Nat → List Char
  | [] => []
  | [n] => [toChar n]
  | high :: low :: rest =>
    if isHigh high && isLow low then Char.ofNat (pair high low) :: join rest
    else toChar high :: join (low :: rest)

/-- Whether a code point and the first of those behind it are a pair. -/
def pairs (n : Nat) (rest : List Nat) : Bool := isHigh n && rest.head?.any isLow

theorem join_pair {high low : Nat} (isHigh_high : isHigh high = true)
    (isLow_low : isLow low = true) (rest : List Nat) :
    join (high :: low :: rest) = Char.ofNat (pair high low) :: join rest := by
  simp [join, isHigh_high, isLow_low]

theorem join_single {n : Nat} {rest : List Nat} (apart : pairs n rest = false) :
    join (n :: rest) = toChar n :: join rest := by
  cases rest with
  | nil => rfl
  | cons low rest =>
      have apart : (isHigh n && isLow low) = false := apart
      simp only [join, apart, Bool.false_eq_true, if_false]

@[simp]
theorem join_char (c : Char) (rest : List Nat) : join (c.toNat :: rest) = c :: join rest := by
  have whole := isHalf_toNat c
  have notHigh : isHigh c.toNat = false := ((Bool.or_eq_false_iff).mp whole).1
  rw [join_single, toChar_of_whole whole, Char.ofNat_toNat]
  rw [pairs, notHigh, Bool.false_and]

theorem join_halves {c : Char} (wide : 0x10000 ≤ c.toNat) (rest : List Nat) :
    join ((halves c.toNat).1 :: (halves c.toNat).2 :: rest) = c :: join rest := by
  rw [join_pair (isHigh_halves (toNat_le c)) (isLow_halves _), pair_halves wide, Char.ofNat_toNat]

theorem join_toNat (cs : List Char) : join (cs.map Char.toNat) = cs := by
  induction cs with
  | nil => rfl
  | cons c cs ih => rw [List.map_cons, join_char, ih]

/-- The text that a list of code points stands for. -/
inductive Joined : List Nat → List Char → Prop where
  | nil : Joined [] []
  /-- A pair is the one character that it encodes. -/
  | pair {high low : Nat} {rest : List Nat} {c : Char} {cs : List Char} :
    0x10000 ≤ c.toNat →
    halves c.toNat = (high, low) →
    Joined rest cs →
    Joined (high :: low :: rest) (c :: cs)
  /-- A half that its other half does not follow is replaced. A low half is never met behind a high
      one, as the two are taken together. -/
  | alone {n : Nat} {rest : List Nat} {cs : List Char} :
    isHalf n = true →
    pairs n rest = false →
    Joined rest cs →
    Joined (n :: rest) ('�' :: cs)
  | whole {c : Char} {rest : List Nat} {cs : List Char} :
    Joined rest cs →
    Joined (c.toNat :: rest) (c :: cs)

theorem Joined.eq_join {codes : List Nat} {cs : List Char} (joined : Joined codes cs) :
    cs = join codes := by
  induction joined with
  | nil => rfl
  | pair wide encodes _ ih =>
      have split := join_halves wide
      rw [encodes] at split
      rw [split, ih]
  | alone half apart _ ih => rw [join_single apart, toChar_of_half half, ih]
  | whole _ ih => rw [join_char, ih]

theorem joined_single {n : Nat} {rest : List Nat} {cs : List Char} (inRange : n ≤ 0x10FFFF)
    (apart : pairs n rest = false) (joined : Joined rest cs) :
    Joined (n :: rest) (toChar n :: cs) := by
  cases half : isHalf n with
  | true =>
      rw [toChar_of_half half]
      exact .alone half apart joined
  | false =>
      rw [toChar_of_whole half]
      have kept := Joined.whole (c := Char.ofNat n) joined
      rwa [toNat_ofNat_of_whole inRange half] at kept

theorem joined_pair {high low : Nat} (isHigh_high : isHigh high = true)
    (isLow_low : isLow low = true) {rest : List Nat} {cs : List Char} (joined : Joined rest cs) :
    Joined (high :: low :: rest) (Char.ofNat (pair high low) :: cs) := by
  obtain ⟨wide, bounded⟩ := pair_bounds isHigh_high isLow_low
  have code := toNat_ofNat_of_whole bounded ((isHalf_eq_false_iff _).mpr (by omega))
  refine .pair ?_ ?_ joined
  · rw [code]
    exact wide
  · rw [code]
    exact halves_pair isHigh_high isLow_low

theorem joined_join {codes : List Nat} (inRange : ∀ n ∈ codes, n ≤ 0x10FFFF) :
    Joined codes (join codes) := by
  fun_induction join codes with
  | case1 => exact .nil
  | case2 n => exact joined_single (inRange n List.mem_cons_self) (by simp [pairs]) .nil
  | case3 high low rest both ih =>
      obtain ⟨isHigh_high, isLow_low⟩ := (Bool.and_eq_true _ _).mp both
      simp only [List.forall_mem_cons] at inRange
      exact joined_pair isHigh_high isLow_low (ih inRange.2.2)
  | case4 high low rest apart ih =>
      rw [List.forall_mem_cons] at inRange
      exact joined_single inRange.1 (Bool.eq_false_iff.mpr apart) (ih inRange.2)

theorem join_eq_iff {codes : List Nat} (inRange : ∀ n ∈ codes, n ≤ 0x10FFFF) (cs : List Char) :
    join codes = cs ↔ Joined codes cs := by
  constructor
  · rintro rfl
    exact joined_join inRange
  · intro joined
    exact joined.eq_join.symm

example : join [0xD83D, 0xD83D, 0xDE00, 0xDE00] = ['�', '😀', '�'] := by decide

/-! ## Encoding and decoding -/

theorem units_narrow {n : Nat} (narrow : n < 0x10000) : units n = [n] := if_pos narrow

theorem units_wide {n : Nat} (wide : 0x10000 ≤ n) : units n = [(halves n).1, (halves n).2] :=
  if_neg (Nat.not_lt.mpr wide)

theorem units_lt {n : Nat} (inRange : n ≤ 0x10FFFF) : ∀ unit ∈ units n, unit < 0x10000 := by
  rcases Nat.lt_or_ge n 0x10000 with narrow | wide
  · rw [units_narrow narrow]
    exact List.forall_mem_singleton.mpr narrow
  · have high := (isHigh_iff _).mp (isHigh_halves inRange)
    have low := (isLow_iff _).mp (isLow_halves n)
    rw [units_wide wide]
    simp only [List.forall_mem_cons, List.not_mem_nil, false_implies, implies_true, and_true]
    omega

/-- The first unit of a code point is a low half only if the code point is. -/
theorem isLow_head_units {n : Nat} (inRange : n ≤ 0x10FFFF) (rest : List Nat) :
    (units n ++ rest).head?.any isLow = isLow n := by
  rcases Nat.lt_or_ge n 0x10000 with narrow | wide
  · rw [units_narrow narrow, List.singleton_append, List.head?_cons, Option.any_some]
  · have high := (isHigh_iff _).mp (isHigh_halves inRange)
    have first : isLow (halves n).1 = false := by
      rw [← Bool.not_eq_true, isLow_iff]
      omega
    have whole : isLow n = false := by
      rw [← Bool.not_eq_true, isLow_iff]
      omega
    rw [units_wide wide, List.cons_append, List.head?_cons, Option.any_some, first, whole]

/-- A code point that is in no pair is joined with nothing, by whichever units it is encoded. -/
theorem join_units_single {n : Nat} (inRange : n ≤ 0x10FFFF) {rest : List Nat}
    (apart : pairs n rest = false) : join (units n ++ rest) = toChar n :: join rest := by
  rcases Nat.lt_or_ge n 0x10000 with narrow | wide
  · rw [units_narrow narrow]
    exact join_single apart
  · have whole : isHalf n = false := (isHalf_eq_false_iff n).mpr (by omega)
    rw [units_wide wide, toChar_of_whole whole, List.cons_append, List.cons_append, List.nil_append,
      join_pair (isHigh_halves inRange) (isLow_halves n), pair_halves wide]

theorem join_flatMap_units {codes : List Nat} (inRange : ∀ n ∈ codes, n ≤ 0x10FFFF) :
    join (codes.flatMap units) = join codes := by
  fun_induction join codes with
  | case1 => rfl
  | case2 n =>
      rw [List.flatMap_cons, List.flatMap_nil,
        join_units_single (inRange n List.mem_cons_self) (by simp [pairs])]
      rfl
  | case3 high low rest both ih =>
      obtain ⟨isHigh_high, isLow_low⟩ := (Bool.and_eq_true _ _).mp both
      simp only [List.forall_mem_cons] at inRange
      have narrowHigh := (isHigh_iff _).mp isHigh_high
      have narrowLow := (isLow_iff _).mp isLow_low
      rw [List.flatMap_cons, List.flatMap_cons, units_narrow (by omega), units_narrow (by omega),
        List.singleton_append, List.singleton_append, join_pair isHigh_high isLow_low,
        ih inRange.2.2]
  | case4 high low rest apart ih =>
      rw [List.forall_mem_cons] at inRange
      have stays : pairs high ((low :: rest).flatMap units) = false := by
        rw [pairs, List.flatMap_cons, isLow_head_units (inRange.2 low List.mem_cons_self)]
        exact Bool.eq_false_iff.mpr apart
      rw [List.flatMap_cons, join_units_single inRange.1 stays, ih inRange.2]

theorem unit_bytes {n : Nat} (small : n < 0x10000) :
    ∃ first second, ByteOrder.little.bytes n = [first, second] ∧
      ByteOrder.little.unit first second = n := by
  refine ⟨_, _, rfl, ?_⟩
  simp only [ByteOrder.unit, UInt8.toNat_ofNat']
  omega

theorem decodeFrom_bytes {units : List Nat} (small : ∀ unit ∈ units, unit < 0x10000) :
    decodeFrom .little (units.flatMap ByteOrder.little.bytes) = join units := by
  fun_induction join units with
  | case1 => rfl
  | case2 n =>
      obtain ⟨a, b, bytes, read⟩ := unit_bytes (small n List.mem_cons_self)
      simp [bytes, decodeFrom, read]
  | case3 high low rest both ih =>
      simp only [List.forall_mem_cons] at small
      obtain ⟨a, b, bytes, read⟩ := unit_bytes small.1
      obtain ⟨c, d, bytes', read'⟩ := unit_bytes small.2.1
      simp only [List.flatMap_cons, bytes, bytes', List.cons_append, List.nil_append, decodeFrom,
        read, read', both, if_true, ih small.2.2]
  | case4 high low rest apart ih =>
      rw [List.forall_mem_cons] at small
      obtain ⟨a, b, bytes, read⟩ := unit_bytes small.1
      obtain ⟨c, d, bytes', read'⟩ := unit_bytes (small.2 low List.mem_cons_self)
      have later := ih small.2
      rw [List.flatMap_cons, bytes'] at later
      simp only [List.cons_append, List.nil_append] at later
      rw [List.flatMap_cons, List.flatMap_cons, bytes, bytes']
      simp only [List.cons_append, List.nil_append]
      rw [decodeFrom, read, read', if_neg apart, later]

/-- Encoding and decoding again joins the pairs and replaces the halves left alone. -/
theorem decode_encode {codes : List Nat} (inRange : ∀ n ∈ codes, n ≤ 0x10FFFF) :
    decode (encode codes) = join codes := by
  have small : ∀ unit ∈ codes.flatMap units, unit < 0x10000 := by
    intro unit inside
    obtain ⟨n, listed, own⟩ := List.mem_flatMap.mp inside
    exact units_lt (inRange n listed) unit own
  rw [← join_flatMap_units inRange, ← decodeFrom_bytes small]
  rfl

end CallOrigin.Utf16
