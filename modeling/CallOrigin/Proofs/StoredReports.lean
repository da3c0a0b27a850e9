import CallOrigin.Proofs.DamagedBytes
import CallOrigin.Proofs.FileTexts
import CallOrigin.Proofs.WholeReports

/-! # What is stored of a report

A report is stored as UTF-8, whatever code points it has: a half of a pair is no character and is
spelt out in hexadecimal digits. Where there is none of these, nothing is lost, and reading gives the
report back unless it has what reading changes: a mark in front, or carriage returns.
-/

namespace CallOrigin.File

/-! ## Code points as text -/

/-- The text that is stored for code points. -/
inductive SpeltOut : List Nat → List Char → Prop where
  | nil : SpeltOut [] []
  /-- A character stands for itself, at a line end too. -/
  | char {c : Char} {codes : List Nat} {cs : List Char} :
    SpeltOut codes cs → SpeltOut (c.toNat :: codes) (c :: cs)
  /-- Half of a pair is spelt by its four digits, the first of which is always the same. -/
  | half {x y z : Nat} {codes : List Nat} {cs : List Char} :
    8 ≤ x ∧ x < 16 → y < 16 → z < 16 →
    SpeltOut codes cs →
    SpeltOut ((0xD000 + 0x100 * x + 0x10 * y + z) :: codes)
      ('\\' :: 'u' :: 'd' :: Nat.digitChar x :: Nat.digitChar y :: Nat.digitChar z :: cs)

theorem toDigits_half {x y z : Nat} (first : x < 16) (second : y < 16) (third : z < 16) :
    Nat.toDigits 16 (0xD000 + 0x100 * x + 0x10 * y + z) =
      ['d', Nat.digitChar x, Nat.digitChar y, Nat.digitChar z] := by
  have front : Nat.toDigits 16 (0xD00 + 0x10 * x + y) = ['d', Nat.digitChar x, Nat.digitChar y] := by
    have top : Nat.toDigits 16 (0xD0 + x) = ['d', Nat.digitChar x] := by
      rw [← Nat.toDigits_append_toDigits (n := 0xD) (by decide) (by decide) first,
        Nat.toDigits_of_lt_base first]
      rfl
    have parts : 0xD00 + 0x10 * x + y = 16 * (0xD0 + x) + y := by omega
    rw [parts, ← Nat.toDigits_append_toDigits (by decide) (by omega) second, top,
      Nat.toDigits_of_lt_base second]
    rfl
  have parts : 0xD000 + 0x100 * x + 0x10 * y + z = 16 * (0xD00 + 0x10 * x + y) + z := by omega
  rw [parts, ← Nat.toDigits_append_toDigits (by decide) (by omega) third, front,
    Nat.toDigits_of_lt_base third]
  rfl

theorem encodeCodePoint_char (c : Char) :
    encodeCodePoint c.toNat = String.utf8EncodeChar c := by
  have whole := (Utf16.isHalf_eq_false_iff _).mp (Utf16.isHalf_toNat c)
  have other : (0xD800 ≤ c.toNat && c.toNat < 0xE000) = false := by
    simp only [Bool.and_eq_false_iff, decide_eq_false_iff_not]
    omega
  rw [encodeCodePoint, other, Char.ofNat_toNat]
  rfl

theorem encodeCodePoint_half {n : Nat} (half : Utf16.isHalf n = true) :
    encodeCodePoint n = Utf8.encode (String.ofList ('\\' :: 'u' :: Nat.toDigits 16 n)) := by
  obtain ⟨low, high⟩ := (Utf16.isHalf_iff n).mp half
  have range : (0xD800 ≤ n && n < 0xE000) = true := by simp [low, high]
  rw [encodeCodePoint, if_pos range]

/-- What is stored is the UTF-8 of this text. -/
theorem SpeltOut.encode_eq {codes : List Nat} {cs : List Char} (spelt : SpeltOut codes cs) :
    encode codes = cs.flatMap String.utf8EncodeChar := by
  induction spelt with
  | nil => rfl
  | @char c codes cs _ ih =>
      rw [List.flatMap_cons, ← ih, ← encodeCodePoint_char]
      rfl
  | @half x y z codes cs first second third _ ih =>
      have half : Utf16.isHalf (0xD000 + 0x100 * x + 0x10 * y + z) = true :=
        (Utf16.isHalf_iff _).mpr (by omega)
      rw [encode, List.flatMap_cons, encodeCodePoint_half half, toDigits_half first.2 second third,
        ← encode, ih]
      simp [Utf8.encode]

theorem exists_speltOut {codes : List Nat} (inRange : ∀ n ∈ codes, n ≤ 0x10FFFF) :
    ∃ cs, SpeltOut codes cs := by
  induction codes with
  | nil => exact ⟨[], .nil⟩
  | cons n codes ih =>
      rw [List.forall_mem_cons] at inRange
      obtain ⟨cs, spelt⟩ := ih inRange.2
      cases half : Utf16.isHalf n with
      | true =>
          obtain ⟨low, high⟩ := (Utf16.isHalf_iff n).mp half
          have digits : n = 0xD000 + 0x100 * (n / 0x100 % 16) + 0x10 * (n / 0x10 % 16) + n % 16 := by
            omega
          rw [digits]
          exact ⟨_, .half (by omega) (by omega) (by omega) spelt⟩
      | false =>
          have kept := SpeltOut.char (c := Char.ofNat n) spelt
          rw [Utf16.toNat_ofNat_of_whole inRange.1 half] at kept
          exact ⟨_, kept⟩

/-- Characters are stored as they are. -/
theorem SpeltOut.map_toNat {codes : List Nat} {cs : List Char} (spelt : SpeltOut codes cs)
    (whole : ∀ n ∈ codes, Utf16.isHalf n = false) : cs.map Char.toNat = codes := by
  induction spelt with
  | nil => rfl
  | char _ ih =>
      rw [List.forall_mem_cons] at whole
      rw [List.map_cons, ih whole.2]
  | @half x y z codes cs first second third _ _ =>
      rw [List.forall_mem_cons, Utf16.isHalf_eq_false_iff] at whole
      omega

/-! ## Stored text -/

theorem fromUTF8?_encode (text : String) :
    String.fromUTF8? (Utf8.encode text).toByteArray = some text := by
  rw [Utf8.toByteArray_encode, String.fromUTF8?, dif_pos text.isValidUTF8]
  rfl

theorem lineFeeds_eq_self {cs : List Char} (plain : '\r' ∉ cs) : lineFeeds cs = cs := by
  induction cs with
  | nil => rfl
  | cons c cs ih =>
      rw [List.mem_cons, not_or] at plain
      rw [lineFeeds_cons (Ne.symm plain.1), ih plain.2]

/-- A text without mark and carriage returns is read as it was stored. -/
theorem decode_encode_plain {text : String} (unmarked : text.toList.head? ≠ some '\uFEFF')
    (plain : '\r' ∉ text.toList) : decode (Utf8.encode text) = text := by
  rw [decode_unmarked unmarked, lineFeeds_eq_self plain, String.ofList_toList]

namespace FileSystem

/-- That what a path leads to is read as a text of the given code points. -/
def ReadsAs (fs : FileSystem) (path : String) (codes : List Nat) : Prop :=
  ∃ text, fs.readText path = .ok text ∧ text.toList.map Char.toNat = codes

theorem readsAs_of_read {fs : FileSystem} {path : String} {codes : List Nat}
    (inRange : ∀ n ∈ codes, n ≤ 0x10FFFF) (stored : fs.read path = .ok (encode codes))
    (whole : ∀ n ∈ codes, Utf16.isHalf n = false) (plain : 0xD ∉ codes)
    (unmarked : codes.head? ≠ some 0xFEFF) : fs.ReadsAs path codes := by
  obtain ⟨cs, spelt⟩ := exists_speltOut inRange
  have same := spelt.map_toNat whole
  have text : encode codes = Utf8.encode (String.ofList cs) := by
    rw [spelt.encode_eq, Utf8.encode, String.toList_ofList]
  have read : decode (encode codes) = String.ofList cs := by
    rw [text]
    apply decode_encode_plain
    · rw [String.toList_ofList]
      intro marked
      exact unmarked (by rw [← same, List.head?_map, marked]; rfl)
    · rw [String.toList_ofList]
      intro inside
      exact plain (by rw [← same]; exact List.mem_map_of_mem (f := Char.toNat) inside)
  refine ⟨String.ofList cs, readText_eq_ok_iff.mpr ⟨encode codes, stored, read⟩, ?_⟩
  rw [String.toList_ofList, same]

/-- Whatever code points a report has, it is refused no more than any other, and what is stored is
    valid UTF-8 for a text with the halves of pairs spelt out and all else as it is. So by every path
    that leads to it the report is read as it was written, if it has no half of a pair, no carriage
    return and no mark in front. -/
theorem writeReport_stored (fs : FileSystem) (fault : Option WriteFault) (path : String)
    {codes : List Nat} (inRange : ∀ n ∈ codes, n ≤ 0x10FFFF) :
    (∀ others, (fs.writeReport fault path codes).refusal = none ↔
      (fs.writeReport fault path others).refusal = none) ∧
    ((fs.writeReport fault path codes).refusal = none →
      ∃ place bytes, fs.Replaced (fs.writeReport fault path codes).files path bytes place ∧
        bytes.toByteArray.IsValidUTF8 ∧
        (∀ text, String.fromUTF8? bytes.toByteArray = some text ↔ SpeltOut codes text.toList) ∧
        ((∀ n ∈ codes, Utf16.isHalf n = false) → 0xD ∉ codes → codes.head? ≠ some 0xFEFF →
          ∀ other, (fs.writeReport fault path codes).files.read other = .ok bytes →
            (fs.writeReport fault path codes).files.ReadsAs other codes)) := by
  have whole := writeReport_allOrNothing fs fault path codes
  refine ⟨fun others => ?_, fun written => ?_⟩
  · rw [whole.written_iff, (writeReport_allOrNothing fs fault path others).written_iff]
  obtain ⟨place, replaced⟩ := whole.replaced written
  obtain ⟨cs, spelt⟩ := exists_speltOut inRange
  have stored (text : String) (spelt : SpeltOut codes text.toList) :
      String.fromUTF8? (encode codes).toByteArray = some text := by
    rw [spelt.encode_eq, ← Utf8.encode, fromUTF8?_encode]
  refine ⟨place, encode codes, replaced, ?_, fun text => ⟨?_, stored text⟩, ?_⟩
  · rw [spelt.encode_eq]
    exact .intro cs rfl
  · intro decoded
    have whole := stored (String.ofList cs) (by rwa [String.toList_ofList])
    cases Option.some.inj (decoded.symm.trans whole)
    rwa [String.toList_ofList]
  · intro whole plain unmarked other stored
    exact readsAs_of_read inRange stored whole plain unmarked

private def noFiles : FileSystem := ⟨[], []⟩

private theorem noFiles_writeReport (codes : List Nat) :
    (noFiles.writeReport none "r" codes).refusal = none := by
  have drafted : noFiles.directoryAt [] (noFiles.draftDirectory "r") = .ok [] :=
    directoryAt_eq_ok_iff.2 ⟨.done, rfl⟩
  have placed := replaceable_iff_names.2 ⟨@names_name noFiles "r" (by decide) rfl, by decide⟩
  rw [writeReport_eq_put drafted (by decide) (by decide) placed]

/-- Half of a pair is spelt out, and a report without any is read back. -/
theorem writeReport_stored_half :
    (noFiles.writeReport none "r" [0x61, 0xD83D, 0xA]).refusal = none ∧
    (∃ bytes, (noFiles.writeReport none "r" [0x61, 0xD83D, 0xA]).files.read "r" = .ok bytes ∧
      String.fromUTF8? bytes.toByteArray = some "a\\ud83d\n") ∧
    (noFiles.writeReport none "r" [0xE9, 0xA]).files.ReadsAs "r" [0xE9, 0xA] := by
  have noLink (place : Location) (target : String) : noFiles.entry? place ≠ some (.link target) := by
    unfold FileSystem.entry?
    split <;> simp [noFiles]
  have written := noFiles_writeReport [0x61, 0xD83D, 0xA]
  have written' := noFiles_writeReport [0xE9, 0xA]
  obtain ⟨place, bytes, replaced, _, texts, _⟩ :=
    (@writeReport_stored noFiles none "r" [0x61, 0xD83D, 0xA] (by decide)).2 written
  obtain ⟨place', bytes', replaced', _, _, reads⟩ :=
    (@writeReport_stored noFiles none "r" [0xE9, 0xA] (by decide)).2 written'
  have spelt : SpeltOut [0x61, 0xD83D, 0xA] "a\\ud83d\n".toList :=
    .char (c := 'a') (.half (x := 8) (y := 3) (z := 13) (by decide) (by decide) (by decide)
      (.char (c := '\n') .nil))
  refine ⟨written, ⟨bytes, ?_, (texts _).2 spelt⟩, ?_⟩
  · rcases replaced.readable with ⟨_, read⟩ | ⟨⟨target, link⟩, _⟩
    · exact read
    · exact absurd link (noLink place target)
  · rcases replaced'.readable with ⟨_, read⟩ | ⟨⟨target, link⟩, _⟩
    · exact reads (by decide) (by decide) (by decide) "r" read
    · exact absurd link (noLink place' target)

end FileSystem

end CallOrigin.File
