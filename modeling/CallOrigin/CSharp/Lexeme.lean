import CallOrigin.CSharp.Token
import CallOrigin.Text.Blank
import CallOrigin.Text.Identifier

/-! # Lexemes of C#

How far the token at the front of a text reaches. Every function here counts characters, so
that no text is copied before its extent is known. -/

namespace CallOrigin.CSharp

open CallOrigin.Text

def isLineEnd (c : Char) : Bool :=
  c == '\n' || c == '\r'

def isGap (c : Char) : Bool :=
  isBlank c || c == '\uFEFF'

def isHex (c : Char) : Bool :=
  c.isDigit || ('a' ≤ c && c ≤ 'f') || ('A' ≤ c && c ≤ 'F')

/-- The number of characters at the front of which all satisfy `p`. -/
def runLength (p : Char → Bool) (cs : List Char) : Nat :=
  (cs.takeWhile p).length

namespace Lexeme

/-- The length of a Unicode escape, which may stand for a character of an identifier. -/
def escape (cs : List Char) : Nat :=
  match cs with
  | '\\' :: 'u' :: rest => if 4 ≤ runLength isHex rest then 6 else 0
  | '\\' :: 'U' :: rest => if 8 ≤ runLength isHex rest then 10 else 0
  | _ => 0

/-- The length of the rest of an identifier. The first `skip` characters belong to an escape
    that has been recognised. -/
def wordRest (skip : Nat) : List Char → Nat
  | [] => 0
  | c :: rest =>
    match skip with
    | k + 1 => 1 + wordRest k rest
    | 0 =>
      if continuesIdentifier c then 1 + wordRest 0 rest
      else match escape (c :: rest) with
        | k + 1 => 1 + wordRest k rest
        | 0 => 0

/-- The length of an identifier or keyword, zero if there is none. -/
def word (cs : List Char) : Nat :=
  let body (cs : List Char) : Nat :=
    match cs with
    | [] => 0
    | c :: _ => if startsIdentifier c || escape cs != 0 then wordRest 0 cs else 0
  match cs with
  | '@' :: rest => if body rest == 0 then 0 else body rest + 1
  | _ => body cs

/-- The length of a quoted text after its opening quote, the closing one included. A line feed
    is not part of it, unless behind a backslash, which takes the next character with it. -/
def quoted : List Char → Option Nat
  | [] => none
  | ['\\'] => none
  | '\\' :: _ :: rest => (quoted rest).map (· + 2)
  | c :: rest =>
    if c == '"' then some 1
    else if c == '\n' then none
    else (quoted rest).map (· + 1)

/-- The characters that a backslash alone gives a meaning. -/
def simpleEscapes : List Char :=
  ['a', 'b', 'e', 'f', 'n', 'r', 't', 'v', '\'', '"', '\\', '?', '0']

/-- The length of the one character, perhaps escaped, that an apostrophe opens and another
    closes; the closing one is included. -/
def character : List Char → Option Nat
  | '\\' :: c :: rest =>
    let length :=
      if simpleEscapes.contains c then 2
      else if c == 'x' then
        match min 4 (runLength isHex rest) with
        | 0 => 0
        | digits => 2 + digits
      else escape ('\\' :: c :: rest)
    if length != 0 && (rest.drop (length - 2)).head? == some '\'' then some (length + 1) else none
  | c :: '\'' :: _ => if c == '\'' then none else some 2
  | _ => none

/-- The length of a verbatim text after its opening quote, the closing one included. A quote
    in the text is doubled. -/
def verbatim : List Char → Option Nat
  | [] => none
  | '"' :: '"' :: rest => (verbatim rest).map (· + 2)
  | c :: rest => if c == '"' then some 1 else (verbatim rest).map (· + 1)

/-- The length of a raw text after its opening quotes, the closing ones included, when `seen`
    quotes stand right before it. At least as many quotes close it as opened it. -/
def raw (quotes seen : Nat) : List Char → Option Nat
  | [] => if quotes ≤ seen then some 0 else none
  | c :: rest =>
    if c == '"' then (raw quotes (seen + 1) rest).map (· + 1)
    else if quotes ≤ seen then some 0
    else (raw quotes 0 rest).map (· + 1)

/-- The length of the mark of a UTF-8 text, which belongs to the literal. -/
def suffix (cs : List Char) : Nat :=
  match cs with
  | 'u' :: '8' :: _ | 'U' :: '8' :: _ => 2
  | _ => 0

/-- The length of a comment in slashes and stars after its opening, the closing included. -/
def blockComment : List Char → Option Nat
  | [] => none
  | '*' :: '/' :: _ => some 2
  | _ :: rest => (blockComment rest).map (· + 1)

/-- The words that follow the hash sign of a directive. -/
def directiveWords : List String :=
  ["if", "elif", "else", "endif", "region", "endregion", "define", "undef", "error", "warning",
   "line", "nullable", "pragma"]

/-- The word of a directive, given what follows its hash sign. -/
def directiveWord (cs : List Char) : String :=
  String.ofList ((cs.dropWhile fun c => c == ' ' || c == '\t').takeWhile Char.isAlpha)

/-- The length of a directive, zero if there is none. It takes the rest of its line. On the
    first line of a source it may also name what is to run the source. -/
def directive (first : Bool) (cs : List Char) : Nat :=
  match cs with
  | '#' :: rest =>
    if directiveWords.contains (directiveWord rest) || first && rest.head? == some '!' then
      runLength (!isLineEnd ·) cs
    else 0
  | _ => 0

/-- Whether a character may stand among the digits of a number. -/
def isDigitOrGap (c : Char) : Bool :=
  c.isDigit || c == '_'

def exponent (cs : List Char) : Nat :=
  match cs with
  | e :: rest =>
    if e == 'e' || e == 'E' then
      match rest with
      | '+' :: d :: _ | '-' :: d :: _ =>
        if d.isDigit then 2 + runLength isDigitOrGap rest.tail else 0
      | d :: _ => if d.isDigit then 1 + runLength isDigitOrGap rest else 0
      | [] => 0
    else 0
  | [] => 0

def number (cs : List Char) : TokenClass × Nat :=
  let based (p : Char → Bool) (rest : List Char) : TokenClass × Nat :=
    let digits := runLength (fun c => p c || c == '_') rest
    (.integer, 2 + digits + runLength ['u', 'U', 'l', 'L'].contains (rest.drop digits))
  match cs with
  | '0' :: 'x' :: rest | '0' :: 'X' :: rest => based isHex rest
  | '0' :: 'b' :: rest | '0' :: 'B' :: rest => based ['0', '1'].contains rest
  | _ =>
    let whole := runLength isDigitOrGap cs
    let fraction :=
      match cs.drop whole with
      | '.' :: d :: rest => if d.isDigit then 2 + runLength isDigitOrGap rest else 0
      | _ => 0
    let power := exponent (cs.drop (whole + fraction))
    let digits := whole + fraction + power
    match cs.drop digits with
    | c :: _ =>
      if ['f', 'F', 'd', 'D', 'm', 'M'].contains c then (.real, digits + 1)
      else if 0 < fraction + power then (.real, digits)
      else (.integer, digits + runLength ['u', 'U', 'l', 'L'].contains (cs.drop digits))
    | [] => (if 0 < fraction + power then .real else .integer, digits)

/-- Operators of more than one character, the longer before the shorter. A greater-than sign
    is always a token of its own, because it may close a list of type arguments. -/
def operators : List String :=
  ["<<=", "??=", "..", "::", "=>", "==", "!=", "<=", "<<", "&&", "||", "++", "--", "+=", "-=",
   "*=", "/=", "%=", "&=", "|=", "^=", "->", "??"]

/-- The class and the length of an operator or bracket. -/
def symbol (cs : List Char) : TokenClass × Nat :=
  match operators.find? (fun op => op.toList.isPrefixOf cs) with
  | some op => (.symbol, op.length)
  | none =>
    match cs with
    | c :: _ =>
      if "\x7b\x7d()[];:,.?=<>+-*/%&|^!~".toList.contains c then (.symbol, 1) else (.unknown, 1)
    | [] => (.unknown, 1)

end Lexeme

end CallOrigin.CSharp
