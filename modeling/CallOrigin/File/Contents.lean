import CallOrigin.Text.Utf8

/-! # Contents of text files

Files are UTF-8, perhaps behind a byte order mark, with line ends of any kind. Reading takes
every sequence of bytes; writing takes every sequence of code points. -/

namespace CallOrigin.File

/-- The bytes that mark a file as UTF-8. -/
def byteOrderMark : List UInt8 := [0xEF, 0xBB, 0xBF]

/-- The bytes behind the mark. A file that ends inside of the mark holds nothing. -/
def withoutMark (bytes : List UInt8) : List UInt8 :=
  if byteOrderMark.isPrefixOf bytes then bytes.drop 3
  else if bytes.isPrefixOf byteOrderMark then []
  else bytes

/-- A text being cut into lines. -/
structure LineFolder where
  text : String
  /-- Whether the last character read was a carriage return. -/
  afterReturn : Bool

/-- Reads one character. A carriage return is a line end, and so is one with the line feed
    behind it. -/
def LineFolder.step (f : LineFolder) (c : Char) : LineFolder :=
  if c == '\r' then ⟨f.text.push '\n', true⟩
  else if c == '\n' && f.afterReturn then ⟨f.text, false⟩
  else ⟨f.text.push c, false⟩

/-- A text of which every line ends in a line feed. -/
def foldLines (text : String) : String :=
  (text.toList.foldl LineFolder.step ⟨"", false⟩).text

def decode (bytes : List UInt8) : String :=
  foldLines (Utf8.decode (withoutMark bytes))

/-- The bytes of a code point; half of a surrogate pair is spelt in hexadecimal digits after a
    backslash. -/
def encodeCodePoint (n : Nat) : List UInt8 :=
  if 0xD800 ≤ n && n < 0xE000 then
    Utf8.encode (String.ofList ('\\' :: 'u' :: Nat.toDigits 16 n))
  else String.utf8EncodeChar (Char.ofNat n)

/-- The bytes of a file that holds the given code points. -/
def encode (codes : List Nat) : List UInt8 :=
  codes.flatMap encodeCodePoint

end CallOrigin.File
