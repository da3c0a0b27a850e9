import CallOrigin.Text.Utf16

/-! # Escapes in quoted text

A backslash and what follows it stand for a character, by a letter or by hexadecimal digits. A
code point that is half of a pair is joined with its other half once all escapes are read. -/

namespace CallOrigin.Escape

/-- What a letter or mark after a backslash stands for. -/
def simple : List (Char × Nat) :=
  [('\'', 0x27), ('"', 0x22), ('\\', 0x5C), ('0', 0), ('a', 7), ('b', 8), ('e', 0x1B), ('f', 0xC),
   ('n', 0xA), ('r', 0xD), ('t', 9), ('v', 0xB)]

def hexValue? (c : Char) : Option Nat :=
  if c.isDigit then some (c.toNat - '0'.toNat)
  else if 'a' ≤ c ∧ c ≤ 'f' then some (c.toNat - 'a'.toNat + 10)
  else if 'A' ≤ c ∧ c ≤ 'F' then some (c.toNat - 'A'.toNat + 10)
  else none

/-- The values of the hexadecimal digits at the front, `limit` of them at most. -/
def hexDigits : (limit : Nat) → List Char → List Nat
  | 0, _ => []
  | _ + 1, [] => []
  | limit + 1, c :: rest =>
    match hexValue? c with
    | some d => d :: hexDigits limit rest
    | none => []

def hexNumber (digits : List Nat) : Nat :=
  digits.foldl (fun n d => n * 16 + d) 0

/-- What `rest` stands for after a backslash: its code points, and the number of characters
    that spell them. A value beyond the last code point is kept as it is written, and a
    character with no meaning of its own stands for itself. -/
def read (c : Char) (rest : List Char) : List Nat × Nat :=
  let digits := hexDigits (if c == 'u' || c == 'x' then 4 else if c == 'U' then 8 else 0) rest
  let complete :=
    (c == 'u' && digits.length == 4) || (c == 'U' && digits.length == 8)
      || (c == 'x' && 1 ≤ digits.length)
  if complete then
    let code := hexNumber digits
    if code ≤ 0x10FFFF then ([code], digits.length + 1)
    else ('\\'.toNat :: c.toNat :: (rest.take digits.length).map Char.toNat, digits.length + 1)
  else ([(simple.lookup c).getD c.toNat], 1)

/-- The code points that a text with escapes stands for. A backslash at the end stays. -/
def codePoints (cs : List Char) : List Nat :=
  match cs with
  | [] => []
  | ['\\'] => ['\\'.toNat]
  | '\\' :: c :: rest =>
    let (codes, length) := read c rest
    codes ++ codePoints (rest.drop (length - 1))
  | c :: rest => c.toNat :: codePoints rest
termination_by cs.length

def decode (text : String) : String :=
  String.ofList (Utf16.decode (Utf16.encode (codePoints text.toList)))

end CallOrigin.Escape
