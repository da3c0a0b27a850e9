import CallOrigin.Calls.ApiCall
import CallOrigin.Text.Utf16

/-! # The report as JSON

An array of objects, indented by two blanks a level, in ASCII alone. A number with too many digits
cannot be written. -/

namespace CallOrigin

inductive Json where
  | null
  | number (value : Int)
  | string (text : String)
  | array (items : List Json)
  | object (fields : List (String × Json))
deriving Repr

namespace Json

def codeEscape (n : Nat) : List Char :=
  let digits := Nat.toDigits 16 n
  '\\' :: 'u' :: (List.replicate (4 - digits.length) '0' ++ digits)

/-- A character inside of quotes. What is not printable ASCII is spelt by its UTF-16 units. -/
def spell (c : Char) : List Char :=
  if c == '"' || c == '\\' then ['\\', c]
  else if c == '\n' then ['\\', 'n']
  else if c == '\r' then ['\\', 'r']
  else if c == '\t' then ['\\', 't']
  else if c.toNat == 0xC then ['\\', 'f']
  else if c.toNat == 8 then ['\\', 'b']
  else if 0x20 ≤ c.toNat && c.toNat < 0x7F then [c]
  else if c.toNat < 0x10000 then codeEscape c.toNat
  else
    let (high, low) := Utf16.halves c.toNat
    codeEscape high ++ codeEscape low

def quote (text : String) : List Char :=
  '"' :: text.toList.flatMap spell ++ ['"']

def newLine (level : Nat) : List Char :=
  '\n' :: List.replicate (2 * level) ' '

mutual

/-- A value, the lines inside of which are one level further in than `level`. -/
def renderAt (level : Nat) : Json → List Char
  | null => "null".toList
  | number n => (toString n).toList
  | string text => quote text
  | array [] => "[]".toList
  | array (item :: rest) =>
    '[' :: newLine (level + 1) ++ renderAt (level + 1) item ++ renderItems (level + 1) rest
      ++ newLine level ++ [']']
  | object [] => ['\x7b', '\x7d']
  | object ((key, value) :: rest) =>
    '\x7b' :: newLine (level + 1) ++ quote key ++ ':' :: ' ' :: renderAt (level + 1) value
      ++ renderFields (level + 1) rest ++ newLine level ++ ['\x7d']

def renderItems (level : Nat) : List Json → List Char
  | [] => []
  | item :: rest => ',' :: newLine level ++ renderAt level item ++ renderItems level rest

def renderFields (level : Nat) : List (String × Json) → List Char
  | [] => []
  | (key, value) :: rest =>
    ',' :: newLine level ++ quote key ++ ':' :: ' ' :: renderAt level value
      ++ renderFields level rest

end

def render (j : Json) : String :=
  String.ofList (renderAt 0 j)

/-! ## Numbers that are too long -/

mutual

/-- The numbers in a value. -/
def numbers : Json → List Int
  | number n => [n]
  | array items => itemNumbers items
  | object fields => fieldNumbers fields
  | null | string _ => []

def itemNumbers : List Json → List Int
  | [] => []
  | item :: rest => numbers item ++ itemNumbers rest

def fieldNumbers : List (String × Json) → List Int
  | [] => []
  | (_, value) :: rest => numbers value ++ fieldNumbers rest

end

def isTooLong (limit : Nat) (n : Int) : Bool :=
  limit < (toString n.natAbs).length

/-- That a number has more digits than the limit. -/
structure DigitError where
  limit : Nat
deriving Repr, DecidableEq

def DigitError.message (e : DigitError) : String :=
  "Exceeds the limit (" ++ toString e.limit ++ " digits) for integer string conversion; "
    ++ "use sys.set_int_max_str_digits() to increase the limit"

/-- The text of a value, unless there is a limit and a number has more digits. -/
def dump (limit : Option Nat) (j : Json) : Except DigitError String :=
  match limit.filter fun limit => j.numbers.any (isTooLong limit) with
  | some limit => .error ⟨limit⟩
  | none => .ok j.render

/-! ## Calls -/

def ofOption {α : Type} (f : α → Json) : Option α → Json
  | some a => f a
  | none => null

def ofMethod (m : Method) : Json :=
  object [("name", string m.name), ("file", string m.file)]

def ofControl (c : Control) : Json :=
  object [("file", string c.file), ("text", string c.text)]

def ofCall (c : ApiCall) : Json :=
  object
    [("apiFile", string c.file),
     ("apiMethod", string c.api),
     ("endpoint", string c.endpoint),
     ("line", number c.line),
     ("col", number c.col),
     ("immediateMethod", ofMethod c.caller),
     ("topLevelMethod", ofOption ofMethod c.top),
     ("uiBinding", ofOption ofControl c.control)]

end Json

def Report.json (limit : Option Nat) (calls : List ApiCall) : Except Json.DigitError String :=
  (Json.array (calls.map Json.ofCall)).dump limit

end CallOrigin
