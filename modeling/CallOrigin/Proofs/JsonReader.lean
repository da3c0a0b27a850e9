import CallOrigin.Proofs.Surrogates
import CallOrigin.Source.Escape
import Mathlib.Algebra.Field.Rat

/-! # Reading JSON

What any reader of JSON makes of a text: the whole grammar, with blanks between the parts, numbers
with fraction and exponent, every escape, and pairs of escapes joined to one character. A number
counts by its value and an object is the list of its fields as they are written.
-/

namespace CallOrigin.Json

/-- What a text of JSON says. -/
inductive Value where
  | null
  | boolean (value : Bool)
  | number (value : ℚ)
  | string (text : String)
  | array (items : List Value)
  | object (fields : List (String × Value))

def isBlank (c : Char) : Bool := c == ' ' || c == '\t' || c == '\n' || c == '\r'

def skipBlanks (cs : List Char) : List Char := cs.dropWhile isBlank

/-! ## Numbers -/

/-- The digits at the front of a text, of which there must be one, and what follows them. -/
def readDigits (cs : List Char) : Option (List Char × List Char) :=
  if (cs.takeWhile Char.isDigit).isEmpty then none
  else some (cs.takeWhile Char.isDigit, cs.dropWhile Char.isDigit)

/-- The digits before the point. Only a nought by itself begins with a nought. -/
def readWhole (cs : List Char) : Option (List Char × List Char) := do
  let (digits, rest) ← readDigits cs
  if 1 < digits.length && digits.head? == some '0' then none else some (digits, rest)

def readFraction : List Char → Option (List Char × List Char)
  | '.' :: rest => readDigits rest
  | cs => some ([], cs)

def readExponent (cs : List Char) : Option (Int × List Char) :=
  match cs with
  | 'e' :: '-' :: rest | 'E' :: '-' :: rest =>
    (readDigits rest).map fun (digits, rest) => (-(Nat.ofDigitChars 10 digits 0 : Int), rest)
  | 'e' :: '+' :: rest | 'E' :: '+' :: rest | 'e' :: rest | 'E' :: rest =>
    (readDigits rest).map fun (digits, rest) => ((Nat.ofDigitChars 10 digits 0 : Int), rest)
  | cs => some (0, cs)

def readMagnitude (cs : List Char) : Option (ℚ × List Char) := do
  let (whole, rest) ← readWhole cs
  let (fraction, rest) ← readFraction rest
  let (exponent, rest) ← readExponent rest
  some ((Nat.ofDigitChars 10 (whole ++ fraction) 0 : ℚ) * 10 ^ (exponent - fraction.length), rest)

def readNumber : List Char → Option (ℚ × List Char)
  | '-' :: rest => (readMagnitude rest).map fun (magnitude, rest) => (-magnitude, rest)
  | cs => readMagnitude cs

/-! ## Strings -/

/-- What a mark behind a backslash stands for. -/
def marks : List (Char × Nat) :=
  [('"', 0x22), ('\\', 0x5C), ('/', 0x2F), ('b', 8), ('f', 0xC), ('n', 0xA), ('r', 0xD), ('t', 9)]

/-- The code points of a string from behind its opening quote on, and what follows the closing
    one. -/
def readCodes : List Char → Option (List Nat × List Char)
  | [] => none
  | '"' :: rest => some ([], rest)
  | '\\' :: 'u' :: a :: b :: c :: d :: rest => do
    let digits ← [a, b, c, d].mapM Escape.hexValue?
    let (codes, rest) ← readCodes rest
    some (Escape.hexNumber digits :: codes, rest)
  | '\\' :: mark :: rest => do
    let code ← marks.lookup mark
    let (codes, rest) ← readCodes rest
    some (code :: codes, rest)
  | c :: rest =>
    if c.toNat < 0x20 then none
    else (readCodes rest).map fun (codes, rest) => (c.toNat :: codes, rest)

def readString (cs : List Char) : Option (String × List Char) := do
  let (codes, rest) ← readCodes cs
  some (String.ofList (Utf16.join codes), rest)

/-- The name of a field with the colon behind it, and the text from the value on. -/
def readKey : List Char → Option (String × List Char)
  | '"' :: rest => do
    let (key, rest) ← readString rest
    match skipBlanks rest with
    | ':' :: rest => some (key, skipBlanks rest)
    | _ => none
  | _ => none

/-! ## Values -/

theorem length_skipBlanks_le (cs : List Char) : (skipBlanks cs).length ≤ cs.length :=
  (List.dropWhile_sublist _).length_le

mutual

/-- The value at the front of a text, and what follows it. -/
def readValue (cs : List Char) : Option (Value × List Char) :=
  match cs with
  | 'n' :: 'u' :: 'l' :: 'l' :: rest => some (.null, rest)
  | 't' :: 'r' :: 'u' :: 'e' :: rest => some (.boolean true, rest)
  | 'f' :: 'a' :: 'l' :: 's' :: 'e' :: rest => some (.boolean false, rest)
  | '"' :: rest => (readString rest).map fun (text, rest) => (.string text, rest)
  | '[' :: rest =>
    match skipBlanks rest with
    | ']' :: rest => some (.array [], rest)
    | _ => (readItems (skipBlanks rest)).map fun (items, rest) => (.array items, rest)
  | '\x7b' :: rest =>
    match skipBlanks rest with
    | '\x7d' :: rest => some (.object [], rest)
    | _ => (readFields (skipBlanks rest)).map fun (fields, rest) => (.object fields, rest)
  | cs => (readNumber cs).map fun (value, rest) => (.number value, rest)
termination_by (cs.length, 0)
decreasing_by
  all_goals
    have := length_skipBlanks_le rest
    simp only [Prod.lex_def, List.length_cons]
    omega

/-- The items of an array up to its closing bracket. -/
def readItems (cs : List Char) : Option (List Value × List Char) := do
  let (item, rest) ← readValue cs
  match skipBlanks rest with
  | ']' :: rest => some ([item], rest)
  | ',' :: rest =>
    -- Always so, as a value takes a character at least; the recursion rests on it.
    if _ : rest.length < cs.length then
      let (items, rest) ← readItems (skipBlanks rest)
      some (item :: items, rest)
    else none
  | _ => none
termination_by (cs.length, 1)
decreasing_by
  · simp [Prod.lex_def]
  · have := length_skipBlanks_le rest
    simp only [Prod.lex_def]
    omega

/-- The fields of an object up to its closing brace. -/
def readFields (cs : List Char) : Option (List (String × Value) × List Char) := do
  let (key, rest) ← readKey cs
  if _ : rest.length < cs.length then
    let (value, rest) ← readValue rest
    match skipBlanks rest with
    | '\x7d' :: rest => some ([(key, value)], rest)
    | ',' :: rest =>
      if _ : rest.length < cs.length then
        let (fields, rest) ← readFields (skipBlanks rest)
        some ((key, value) :: fields, rest)
      else none
    | _ => none
  else none
termination_by (cs.length, 1)
decreasing_by
  · simp only [Prod.lex_def]
    omega
  · have := length_skipBlanks_le rest
    simp only [Prod.lex_def]
    omega

end

/-- The one value that a text consists of. -/
def read (text : String) : Option Value := do
  let (value, rest) ← readValue (skipBlanks text.toList)
  if (skipBlanks rest).isEmpty then some value else none

end CallOrigin.Json
