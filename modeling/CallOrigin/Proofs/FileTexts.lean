import CallOrigin.Proofs.Utf8Texts
import CallOrigin.Proofs.Ways
import Mathlib.Data.List.Infix

/-! # What is read from a file

Reading takes off one byte order mark, decodes the bytes and makes every line end a line feed. The
mark is the encoding of a character, so bytes that encode a text without that character in front
have no mark to take off, and none of them is taken for one. What is read has no carriage return,
whatever the bytes are.
-/

namespace CallOrigin.File

/-! ## Line ends -/

/-- A text in which each carriage return with a line feed behind it has become that line feed. -/
def withoutPairs : List Char → List Char
  | [] => []
  | c :: rest =>
    if c = '\r' ∧ rest.head? = some '\n' then withoutPairs rest else c :: withoutPairs rest

/-- A text with each pair of carriage return and line feed, and then each carriage return that is
    left, replaced by a line feed. -/
def lineFeeds (text : List Char) : List Char :=
  (withoutPairs text).map fun c => if c = '\r' then '\n' else c

theorem return_not_mem_lineFeeds (text : List Char) : '\r' ∉ lineFeeds text := by
  intro inside
  obtain ⟨c, _, same⟩ := List.mem_map.mp inside
  split at same
  · cases same
  · rename_i other
    exact other same

theorem lineFeeds_cons {c : Char} (other : c ≠ '\r') (rest : List Char) :
    lineFeeds (c :: rest) = c :: lineFeeds rest := by
  simp [lineFeeds, withoutPairs, other]

/-- What is left to read of a line end, if a carriage return has been read. -/
def behindReturn : List Char → List Char
  | [] => []
  | c :: rest => if c = '\n' then rest else c :: rest

theorem lineFeeds_return (rest : List Char) :
    lineFeeds ('\r' :: rest) = '\n' :: lineFeeds (behindReturn rest) := by
  cases rest with
  | nil => rfl
  | cons c rest =>
      by_cases feed : c = '\n'
      · subst feed
        simp [lineFeeds, withoutPairs, behindReturn]
      · simp [lineFeeds, withoutPairs, behindReturn, feed]

/-- A line folder has read what comes before, and makes of the rest what it is with line feeds. -/
theorem LineFolder.foldl_step (rest : List Char) (f : LineFolder) :
    (rest.foldl step f).text.toList =
      f.text.toList ++ lineFeeds (if f.afterReturn then behindReturn rest else rest) := by
  induction rest generalizing f with
  | nil => cases f.afterReturn <;> simp [behindReturn, lineFeeds, withoutPairs]
  | cons c rest ih =>
      obtain ⟨text, afterReturn⟩ := f
      rw [List.foldl_cons, ih]
      by_cases isReturn : c = '\r'
      · subst isReturn
        have ahead : (if afterReturn then behindReturn ('\r' :: rest) else '\r' :: rest) =
            '\r' :: rest := by
          cases afterReturn <;> rfl
        simp only [step, ahead, lineFeeds_return, beq_self_eq_true, if_true, String.toList_push,
          List.append_assoc, List.singleton_append]
      · have unlike : (c == '\r') = false := by simpa using isReturn
        by_cases skipped : c = '\n' ∧ afterReturn = true
        · obtain ⟨rfl, rfl⟩ := skipped
          simp [step, behindReturn]
        · have ahead : (if afterReturn then behindReturn (c :: rest) else c :: rest) =
              c :: rest := by
            cases afterReturn with
            | false => rfl
            | true =>
                have other : c ≠ '\n' := by simpa using skipped
                simp [behindReturn, other]
          have kept : (c == '\n' && afterReturn) = false := by
            rw [← Bool.not_eq_true, Bool.and_eq_true, beq_iff_eq]
            exact skipped
          simp only [step, unlike, kept, ahead, lineFeeds_cons isReturn, Bool.false_eq_true,
            if_false, String.toList_push, List.append_assoc, List.singleton_append]

theorem toList_foldLines (text : String) : (foldLines text).toList = lineFeeds text.toList :=
  LineFolder.foldl_step text.toList ⟨"", false⟩

/-! ## The mark -/

theorem byteOrderMark_eq : byteOrderMark = Utf8.encode "\uFEFF" := by decide

theorem withoutMark_marked (bytes : List UInt8) : withoutMark (byteOrderMark ++ bytes) = bytes := by
  have marked : byteOrderMark.isPrefixOf (byteOrderMark ++ bytes) = true := by
    rw [List.isPrefixOf_iff_prefix]
    exact List.prefix_append ..
  rw [withoutMark, if_pos marked]
  rfl

theorem not_begins_with_mark {t : String} (unmarked : t.toList.head? ≠ some '\uFEFF') :
    ¬ byteOrderMark <+: Utf8.encode t := by
  rintro ⟨rest, split⟩
  have text : t = "\uFEFF" ++ Utf8.decode rest := by
    rw [← Utf8.decode_encode_append, ← byteOrderMark_eq, split, Utf8.decode_encode]
  apply unmarked
  rw [text, String.toList_append]
  rfl

/-- No text has the first bytes of the mark, without the last, for an encoding. -/
theorem eq_nil_of_prefix_mark {t : String} (unmarked : t.toList.head? ≠ some '\uFEFF')
    (within : Utf8.encode t <+: byteOrderMark) : Utf8.encode t = [] := by
  -- A text is known by its encoding, so each of the four beginnings has one text to be tried.
  have text : t = Utf8.decode (Utf8.encode t) := (Utf8.decode_encode t).symm
  have listed : Utf8.encode t ∈ byteOrderMark.inits := (List.mem_inits ..).mpr within
  have beginnings : byteOrderMark.inits = [[], [0xEF], [0xEF, 0xBB], byteOrderMark] := rfl
  rw [beginnings] at listed
  simp only [List.mem_cons, List.not_mem_nil, or_false] at listed
  rcases listed with none | one | two | whole
  · exact none
  · rw [one] at text
    rw [text] at one
    exact absurd one (by decide)
  · rw [two] at text
    rw [text] at two
    exact absurd two (by decide)
  · exact absurd (whole ▸ List.prefix_rfl) (not_begins_with_mark unmarked)

theorem withoutMark_encode {t : String} (unmarked : t.toList.head? ≠ some '\uFEFF') :
    withoutMark (Utf8.encode t) = Utf8.encode t := by
  have open_ := mt List.isPrefixOf_iff_prefix.mp (not_begins_with_mark unmarked)
  rw [withoutMark, if_neg open_]
  split
  · rename_i within
    exact (eq_nil_of_prefix_mark unmarked (List.isPrefixOf_iff_prefix.mp within)).symm
  · rfl

/-! ## Files -/

theorem toList_decode (bytes : List UInt8) :
    (decode bytes).toList = lineFeeds (Utf8.decode (withoutMark bytes)).toList :=
  toList_foldLines _

theorem decode_marked (t : String) :
    decode (byteOrderMark ++ Utf8.encode t) = String.ofList (lineFeeds t.toList) := by
  rw [← String.toList_inj, toList_decode, withoutMark_marked, Utf8.decode_encode,
    String.toList_ofList]

theorem decode_unmarked {t : String} (unmarked : t.toList.head? ≠ some '\uFEFF') :
    decode (Utf8.encode t) = String.ofList (lineFeeds t.toList) := by
  rw [← String.toList_inj, toList_decode, withoutMark_encode unmarked, Utf8.decode_encode,
    String.toList_ofList]

/-- Reading a file decodes every encoded text. Behind a mark any text is read, also one that begins
    with the character of the mark; without a mark any text that does not. What is read has the
    line ends of the text, all as line feeds. Bytes of any kind are read, and no carriage return is
    left of them. -/
theorem FileSystem.readText_encoded (fs : FileSystem) (path : String) {bytes : List UInt8}
    (stored : fs.read path = .ok bytes) :
    (∀ t, bytes = byteOrderMark ++ Utf8.encode t →
      fs.readText path = .ok (String.ofList (lineFeeds t.toList))) ∧
    (∀ t, t.toList.head? ≠ some '\uFEFF' → bytes = Utf8.encode t →
      fs.readText path = .ok (String.ofList (lineFeeds t.toList))) ∧
    ∃ text, fs.readText path = .ok text ∧ '\r' ∉ text.toList := by
  have read : fs.readText path = .ok (decode bytes) := readText_eq_ok_iff.mpr ⟨bytes, stored, rfl⟩
  refine ⟨?_, ?_, decode bytes, read, ?_⟩
  · rintro t rfl
    rw [read, decode_marked]
  · rintro t unmarked rfl
    rw [read, decode_unmarked unmarked]
  · rw [toList_decode]
    exact return_not_mem_lineFeeds _

/-- A text with a second mark behind the first, and one without any. -/
private def markedFiles : FileSystem :=
  ⟨[(["m"], .file (byteOrderMark ++ Utf8.encode "\uFEFFa\r\r\nb")),
    (["p"], .file (Utf8.encode "a\rb"))], []⟩

private theorem markedFiles_read :
    markedFiles.read "m" = .ok (byteOrderMark ++ Utf8.encode "\uFEFFa\r\r\nb") ∧
      markedFiles.read "p" = .ok (Utf8.encode "a\rb") :=
  ⟨FileSystem.read_name (by decide) rfl, FileSystem.read_name (by decide) rfl⟩

/-- Only one mark is taken off, and line ends of each kind become line feeds. -/
theorem FileSystem.readText_encoded_second_mark :
    (markedFiles.read "m" = .ok (byteOrderMark ++ Utf8.encode "\uFEFFa\r\r\nb") ∧
      markedFiles.readText "m" = .ok "\uFEFFa\n\nb") ∧
    (markedFiles.read "p" = .ok (Utf8.encode "a\rb") ∧ "a\rb".toList.head? ≠ some '\uFEFF' ∧
      markedFiles.readText "p" = .ok "a\nb") := by
  obtain ⟨marked, plain⟩ := markedFiles_read
  have unmarked : "a\rb".toList.head? ≠ some '\uFEFF' := by decide
  have folded : String.ofList (lineFeeds "\uFEFFa\r\r\nb".toList) = "\uFEFFa\n\nb" := by decide
  have folded' : String.ofList (lineFeeds "a\rb".toList) = "a\nb" := by decide
  rw [← folded, ← folded']
  exact ⟨⟨marked, (readText_encoded _ _ marked).1 _ rfl⟩,
    plain, unmarked, (readText_encoded _ _ plain).2.1 _ unmarked rfl⟩

end CallOrigin.File
