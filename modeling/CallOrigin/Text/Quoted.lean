import CallOrigin.Text.Printable

/-! # Quoted text

A text between quotes in which everything can be seen: backslashes and the quote itself have a
backslash before them, and what does not show is spelt by its code point. -/

namespace CallOrigin.Text.Quoted

/-- Lower-case hexadecimal digits of a number, at least `width` of them. -/
def hex (width n : Nat) : List Char :=
  let digits := Nat.toDigits 16 n
  List.replicate (width - digits.length) '0' ++ digits

/-- The quote to use: a double one only for a text that holds single ones and no double one. -/
def quoteFor (text : List Char) : Char :=
  if text.contains '\'' && !text.contains '"' then '"' else '\''

def spell (quote c : Char) : List Char :=
  if c == quote || c == '\\' then ['\\', c]
  else if c == '\n' then ['\\', 'n']
  else if c == '\r' then ['\\', 'r']
  else if c == '\t' then ['\\', 't']
  else if isPrintable c then [c]
  else if c.toNat < 0x100 then '\\' :: 'x' :: hex 2 c.toNat
  else if c.toNat < 0x10000 then '\\' :: 'u' :: hex 4 c.toNat
  else '\\' :: 'U' :: hex 8 c.toNat

def quote (text : String) : String :=
  let cs := text.toList
  let q := quoteFor cs
  String.ofList (q :: cs.flatMap (spell q) ++ [q])

end CallOrigin.Text.Quoted
