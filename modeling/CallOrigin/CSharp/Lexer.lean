import CallOrigin.CSharp.Lexeme

/-! # From source to tokens

The scanner keeps a stack of the interpolated strings that it is inside of. In the text part of
one it looks for the next hole; in a hole it reads ordinary tokens until the brace that
closes it. -/

namespace CallOrigin.CSharp

open CallOrigin.Text

/-- How an interpolated string is quoted. -/
structure Quoting where
  /-- One, or three and more for a raw string. -/
  quotes : Nat
  /-- The number of braces that open a hole. -/
  braces : Nat
  /-- Whether a backslash is an ordinary character and a quote is doubled. -/
  verbatim : Bool
deriving Repr, DecidableEq

/-- An interpolated string that is under way. -/
inductive Frame where
  | text (quoting : Quoting)
  /-- In a hole, inside of `depth` brackets. -/
  | hole (quoting : Quoting) (depth : Nat)
deriving Repr, DecidableEq

/-- What stands at the front of the rest of a source. -/
structure Lexed where
  /-- The class of the token; nothing for a gap. -/
  cls : Option TokenClass
  length : Nat
  /-- The interpolated strings under way behind it. -/
  frames : List Frame
deriving Repr, DecidableEq

namespace Quoting

/-- The opening of an interpolated string at the front, with its length. -/
def opening? (cs : List Char) : Option (Quoting × Nat) :=
  match cs with
  | '@' :: '$' :: '"' :: _ => some (⟨1, 1, true⟩, 3)
  | '$' :: '@' :: '"' :: _ => some (⟨1, 1, true⟩, 3)
  | '$' :: _ =>
    let dollars := runLength (· == '$') cs
    match runLength (· == '"') (cs.drop dollars) with
    | 0 => none
    | 1 | 2 => if dollars == 1 then some (⟨1, 1, false⟩, 2) else none
    | quotes => some (⟨quotes, dollars, true⟩, dollars + quotes)
  | _ => none

/-- The length of the literal stretch at the front of an interpolated string. The first `skip`
    characters are known to belong to it. -/
def content (q : Quoting) (skip : Nat) : List Char → Nat
  | [] => 0
  | c :: rest =>
    match skip with
    | k + 1 => 1 + q.content k rest
    | 0 =>
      if 1 < q.quotes then
        if c == '"' && runLength (· == '"') (c :: rest) == q.quotes then 0
        else if c == '\x7b' && runLength (· == '\x7b') (c :: rest) == q.braces then 0
        else 1 + q.content 0 rest
      else
        let twice := rest.head? == some c
        if c == '"' then
          if q.verbatim && twice then 1 + q.content 1 rest else 0
        else if c == '\x7b' then
          if twice then 1 + q.content 1 rest else 0
        else if c == '\\' && !q.verbatim then 1 + q.content 1 rest
        else if isLineEnd c && !q.verbatim then 0
        else 1 + q.content 0 rest

/-- What stands at the front in the text part of an interpolated string. -/
def lexText (q : Quoting) (frames : List Frame) (cs : List Char) : Lexed :=
  match q.content 0 cs with
  | n + 1 => ⟨some .content, n + 1, .text q :: frames⟩
  | 0 =>
    match cs with
    | '"' :: _ => ⟨some .closing, q.quotes, frames⟩
    | '\x7b' :: _ => ⟨some .holeStart, q.braces, .hole q 0 :: frames⟩
    | _ => ⟨some .unknown, 1, frames⟩

end Quoting

/-- What stands at the front in code that is not inside of a hole. Nothing precedes it where it
    is `first`. -/
def lexCode (first : Bool) (frames : List Frame) (cs : List Char) : Lexed :=
  let token (cls : TokenClass) (length : Nat) : Lexed := ⟨some cls, length, frames⟩
  let orUnknown (cls : TokenClass) (length : Option Nat) : Lexed :=
    match length with
    | some n => token cls n
    | none => token .unknown 1
  let withSuffix (head : Nat) (body : Option Nat) : Option Nat :=
    body.map fun n => head + n + Lexeme.suffix (cs.drop (head + n))
  match Quoting.opening? cs with
  | some (q, n) => ⟨some .opening, n, .text q :: frames⟩
  | none =>
    match cs with
    | '/' :: '/' :: rest => token .comment (2 + runLength (!isLineEnd ·) rest)
    | '/' :: '*' :: rest => orUnknown .comment ((Lexeme.blockComment rest).map (· + 2))
    | '@' :: '"' :: rest => orUnknown .verbatimString (withSuffix 2 (Lexeme.verbatim rest))
    | '\'' :: rest => orUnknown .character ((Lexeme.character rest).map (· + 1))
    | '"' :: rest =>
      let quotes := runLength (· == '"') cs
      if 3 ≤ quotes then
        orUnknown .rawString (withSuffix quotes (Lexeme.raw quotes 0 (cs.drop quotes)))
      else orUnknown .string (withSuffix 1 (Lexeme.quoted rest))
    | c :: rest =>
      if isGap c then ⟨none, runLength isGap cs, frames⟩
      else if Lexeme.directive first cs != 0 then token .directive (Lexeme.directive first cs)
      else if c.isDigit || c == '.' && rest.head?.any Char.isDigit then
        let (cls, n) := Lexeme.number cs
        token cls n
      else match Lexeme.word cs with
        | n + 1 => token .word (n + 1)
        | 0 =>
          let (cls, n) := Lexeme.symbol cs
          token cls n
    | [] => token .unknown 1

/-- What stands at the front in a hole. Brackets are counted, so that the brace that closes the
    hole and the colon that begins its format are told from those inside of it. -/
def lexHole (first : Bool) (q : Quoting) (depth : Nat) (frames : List Frame) (cs : List Char) :
    Lexed :=
  let inside (depth : Nat) : Lexed := ⟨some .symbol, 1, .hole q depth :: frames⟩
  match cs with
  | '(' :: _ | '[' :: _ | '\x7b' :: _ => inside (depth + 1)
  | ')' :: _ | ']' :: _ => inside (depth - 1)
  | '\x7d' :: _ =>
    if depth == 0 then ⟨some .holeEnd, q.braces, .text q :: frames⟩ else inside (depth - 1)
  | ':' :: ':' :: _ => ⟨some .symbol, 2, .hole q depth :: frames⟩
  | ':' :: rest =>
    if depth == 0 then
      ⟨some .format, 1 + runLength (fun c => c != '\x7d' && c != '"') rest,
        .hole q depth :: frames⟩
    else inside depth
  | _ => lexCode first (.hole q depth :: frames) cs

def lex (first : Bool) (frames : List Frame) (cs : List Char) : Lexed :=
  match frames with
  | .text q :: outer => q.lexText outer cs
  | .hole q depth :: outer => lexHole first q depth outer cs
  | [] => lexCode first [] cs

/-- A place between two characters of a source. -/
structure Place where
  /-- Bytes before it. -/
  offset : Nat
  point : Point
deriving Repr, DecidableEq

/-- The place behind one more character. Only a line feed begins a new row. -/
def Place.advance (p : Place) (c : Char) : Place :=
  ⟨p.offset + c.utf8Size,
    if c == '\n' then ⟨p.point.row + 1, 0⟩ else ⟨p.point.row, p.point.col + c.utf8Size⟩⟩

/-- Puts the tokens of the rest of a source before those of `found`, which come last first. -/
def scanFrom (frames : List Frame) (place : Place) (found : List Token) (cs : List Char) :
    List Token :=
  match cs with
  | [] => found.reverse
  | c :: rest =>
    let lexed := lex (place.offset == 0) frames (c :: rest)
    let taken := c :: rest.take (lexed.length - 1)
    let next := taken.foldl Place.advance place
    let found :=
      match lexed.cls with
      | some cls => ⟨cls, String.ofList taken, place.offset, next.offset, place.point⟩ :: found
      | none => found
    scanFrom lexed.frames next found (rest.drop (lexed.length - 1))
termination_by cs.length
decreasing_by simp only [List.length_drop, List.length_cons]; omega

/-- The tokens of a source in order, comments and directives among them. -/
def scan (source : String) : List Token :=
  scanFrom [] ⟨0, ⟨0, 0⟩⟩ [] source.toList

end CallOrigin.CSharp
