/-! # UTF-8

Encoding of text, and a decoder that accepts every sequence of bytes: a part that no
character begins with, or that stops short, is read as one replacement character. -/

namespace CallOrigin.Utf8

def encode (text : String) : List UInt8 :=
  text.toList.flatMap String.utf8EncodeChar

/-- The character that stands for bytes that no text has. -/
def replacement : Char := '�'

/-- A character of which the first bytes have been read. -/
structure Partial where
  /-- The bits read so far. -/
  bits : Nat
  /-- How many bytes are still to come. At least one. -/
  missing : Nat
  least : UInt8
  greatest : UInt8
deriving Repr, DecidableEq

/-- What a byte tells about the character that it begins. -/
inductive Lead where
  | whole (c : Char)
  /-- More bytes have to follow. The bounds on the second byte shut out overlong spellings,
      surrogates and values beyond the last code point. -/
  | opens (part : Partial)
  | invalid
deriving Repr, DecidableEq

/-- Reads a byte at the beginning of a character. -/
def Lead.ofByte (b : UInt8) : Lead :=
  if b < 0x80 then .whole (Char.ofNat b.toNat)
  else if b < 0xC2 then .invalid
  else if b < 0xE0 then .opens ⟨b.toNat - 0xC0, 1, 0x80, 0xBF⟩
  else if b == 0xE0 then .opens ⟨0, 2, 0xA0, 0xBF⟩
  else if b == 0xED then .opens ⟨0xD, 2, 0x80, 0x9F⟩
  else if b < 0xF0 then .opens ⟨b.toNat - 0xE0, 2, 0x80, 0xBF⟩
  else if b == 0xF0 then .opens ⟨0, 3, 0x90, 0xBF⟩
  else if b < 0xF4 then .opens ⟨b.toNat - 0xF0, 3, 0x80, 0xBF⟩
  else if b == 0xF4 then .opens ⟨4, 3, 0x80, 0x8F⟩
  else .invalid

/-- A decoder between two bytes. -/
structure Decoder where
  text : String
  /-- The character that is under way, if any. -/
  pending : Option Partial
deriving Repr, DecidableEq

namespace Decoder

/-- Nothing read yet. -/
def initial : Decoder := ⟨"", none⟩

def begin (text : String) (b : UInt8) : Decoder :=
  match Lead.ofByte b with
  | .whole c => ⟨text.push c, none⟩
  | .opens part => ⟨text, some part⟩
  | .invalid => ⟨text.push replacement, none⟩

/-- Reads one byte. A byte that cannot continue the character under way ends it as one
    replacement character and is then read as a beginning of its own. -/
def step (d : Decoder) (b : UInt8) : Decoder :=
  match d.pending with
  | none => begin d.text b
  | some part =>
    if part.least ≤ b ∧ b ≤ part.greatest then
      let bits := part.bits * 64 + (b.toNat - 0x80)
      if part.missing ≤ 1 then ⟨d.text.push (Char.ofNat bits), none⟩
      else ⟨d.text, some ⟨bits, part.missing - 1, 0x80, 0xBF⟩⟩
    else begin (d.text.push replacement) b

/-- The text once the bytes have ended; a character cut short is one replacement character. -/
def finish (d : Decoder) : String :=
  match d.pending with
  | none => d.text
  | some _ => d.text.push replacement

end Decoder

/-- The text of any bytes, with one replacement character for each maximal invalid part. -/
def decode (bytes : List UInt8) : String :=
  (bytes.foldl Decoder.step Decoder.initial).finish

end CallOrigin.Utf8
