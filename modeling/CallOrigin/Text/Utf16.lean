/-! # UTF-16

Bytes by twos, behind a mark that tells their order. A code point beyond the first 65536 is
encoded by two halves. A text that was spelt out as code points may hold such halves; encoding
lets them pass, and decoding joins the pairs and replaces a half that is left alone. -/

namespace CallOrigin.Utf16

def isHigh (n : Nat) : Bool := 0xD800 ≤ n && n < 0xDC00

def isLow (n : Nat) : Bool := 0xDC00 ≤ n && n < 0xE000

def pair (high low : Nat) : Nat :=
  0x10000 + (high - 0xD800) * 0x400 + (low - 0xDC00)

/-- The halves that encode a code point beyond the first 65536. -/
def halves (n : Nat) : Nat × Nat :=
  (0xD800 + (n - 0x10000) / 0x400, 0xDC00 + (n - 0x10000) % 0x400)

/-- The units that encode a code point. A half is its own unit. -/
def units (n : Nat) : List Nat :=
  if n < 0x10000 then [n] else [(halves n).1, (halves n).2]

/-- The order of the two bytes of a unit. -/
inductive ByteOrder where
  | little
  | big
deriving Repr, DecidableEq

namespace ByteOrder

def bytes (order : ByteOrder) (unit : Nat) : List UInt8 :=
  match order with
  | little => [UInt8.ofNat (unit % 0x100), UInt8.ofNat (unit / 0x100)]
  | big => [UInt8.ofNat (unit / 0x100), UInt8.ofNat (unit % 0x100)]

def unit (order : ByteOrder) (first second : UInt8) : Nat :=
  match order with
  | little => first.toNat + 0x100 * second.toNat
  | big => 0x100 * first.toNat + second.toNat

end ByteOrder

def byteOrderMark : Nat := 0xFEFF

/-- Code points in UTF-16, lower bytes first, behind the mark. -/
def encode (codes : List Nat) : List UInt8 :=
  (byteOrderMark :: codes.flatMap units).flatMap ByteOrder.little.bytes

/-- A unit by itself as a character; half of a pair becomes the replacement character. -/
def toChar (n : Nat) : Char :=
  if isHigh n || isLow n then '�' else Char.ofNat n

/-- The characters that bytes encode. What is cut off at the end is replaced as a whole. -/
def decodeFrom (order : ByteOrder) : List UInt8 → List Char
  | [] => []
  | [_] => ['�']
  | a :: b :: rest =>
    let n := order.unit a b
    match rest with
    | c :: d :: more =>
      if isHigh n && isLow (order.unit c d) then
        Char.ofNat (pair n (order.unit c d)) :: decodeFrom order more
      else toChar n :: decodeFrom order (c :: d :: more)
    | [c] => if isHigh n then ['�'] else toChar n :: decodeFrom order [c]
    | [] => [toChar n]

/-- The characters that bytes encode in the order that a mark at the front tells. -/
def decode (bytes : List UInt8) : List Char :=
  match bytes with
  | 0xFF :: 0xFE :: rest => decodeFrom .little rest
  | 0xFE :: 0xFF :: rest => decodeFrom .big rest
  | bytes => decodeFrom .little bytes

end CallOrigin.Utf16
