import CallOrigin.Console.Style

/-! # Console markup

Text for a console may hold style tags in square brackets. A tag begins with a small letter, a
hash, a slash or an at sign; a backslash before a tag makes it plain text. -/

namespace CallOrigin.Console

/-- A style tag: its name and what stands behind an equals sign. -/
structure Tag where
  name : List Char
  parameters : Option (List Char)
deriving Repr, DecidableEq

inductive Piece where
  | text (chars : List Char)
  | tag (position : Nat) (tag : Tag)
deriving Repr, DecidableEq

inductive MarkupError where
  | unmatched (tag : Tag) (position : Nat)
  /-- A closing tag closes the last style where none is open. -/
  | nothingOpen (position : Nat)
deriving Repr, DecidableEq

def Tag.text (t : Tag) : String :=
  let parameters :=
    match t.parameters with
    | some p => '=' :: p
    | none => []
  String.ofList ('[' :: t.name ++ parameters ++ [']'])

def MarkupError.message : MarkupError → String
  | unmatched tag position =>
    "closing tag '" ++ tag.text ++ "' at position " ++ toString position
      ++ " doesn't match any open tag"
  | nothingOpen position =>
    "closing tag '[/]' at position " ++ toString position ++ " has nothing to close"

def beginsTag (c : Char) : Bool :=
  ('a' ≤ c && c ≤ 'z') || c == '#' || c == '/' || c == '@'

/-- The text of the tag behind an opening bracket, up to the first closing one. No other opening
    bracket may stand before that. -/
def tagText? (cs : List Char) : Option (List Char) :=
  match cs with
  | [] => none
  | c :: rest =>
    let more := rest.takeWhile fun c => c != ']' && c != '['
    if beginsTag c && (rest.drop more.length).head? == some ']' then some (c :: more) else none

def Tag.ofText (text : List Char) : Tag :=
  let name := text.takeWhile (· != '=')
  ⟨name, if name.length < text.length then some (text.drop (name.length + 1)) else none⟩

/-- The pieces of markup from a position on, behind the stretch of text `plain`, which comes last
    character first. Of the backslashes before a tag every two are one; one that is left over
    makes the tag plain text. -/
def piecesFrom (position : Nat) (plain : List Char) (cs : List Char) : List Piece :=
  match cs with
  | [] => if plain.isEmpty then [] else [.text plain.reverse]
  | c :: rest =>
    let slashes := ((c :: rest).takeWhile (· == '\\')).length
    match (c :: rest).drop slashes with
    | '[' :: inside =>
      match tagText? inside with
      | some text =>
        let before := if plain.isEmpty then [] else [.text plain.reverse]
        let halved := List.replicate (slashes / 2) '\\'
        let kept := if halved.isEmpty then [] else [.text halved]
        let this :=
          if slashes % 2 == 1 then .text ('[' :: text ++ [']'])
          else .tag (position + slashes) (Tag.ofText text)
        before ++ kept ++ this ::
          piecesFrom (position + slashes + text.length + 2) []
            (rest.drop (slashes + text.length + 1))
      | none => piecesFrom (position + 1) (c :: plain) rest
    | _ => piecesFrom (position + 1) (c :: plain) rest
termination_by cs.length

def pieces (markup : String) : List Piece :=
  piecesFrom 0 [] markup.toList

/-- A text without the backslashes that stand before opening brackets. -/
def withoutEscapes : List Char → List Char
  | '\\' :: '[' :: rest => '[' :: withoutEscapes rest
  | c :: rest => c :: withoutEscapes rest
  | [] => []

/-- Whether a console leaves a character out: a bell, a backspace, a vertical tab, a form feed
    or a carriage return. -/
def isLeftOut (c : Char) : Bool :=
  [7, 8, 11, 12, 13].contains c.toNat

/-- Takes the last style of the given name off the styles that are open, last first. -/
def close? (style : String) : List String → Option (List String)
  | [] => none
  | s :: rest => if s == style then some rest else (close? style rest).map (s :: ·)

/-- The text that pieces show, the styles of `openStyles` being open, last first. -/
def showFrom (openStyles : List String) : List Piece → Except MarkupError (List Char)
  | [] => .ok []
  | .text chars :: rest =>
    (showFrom openStyles rest).map ((withoutEscapes chars).filter (!isLeftOut ·) ++ ·)
  | .tag position tag :: rest =>
    match tag.name with
    | '/' :: name =>
      let style := Text.trimBy Text.isBlank name
      if style.isEmpty then
        match openStyles with
        | [] => .error (.nothingOpen position)
        | _ :: others => showFrom others rest
      else
        match close? (Style.normalized (String.ofList style)) openStyles with
        | some others => showFrom others rest
        | none => .error (.unmatched tag position)
    | name => showFrom (Style.normalized (String.ofList name) :: openStyles) rest

/-- The text that a console shows for markup, styles apart. -/
def shown (markup : String) : Except MarkupError (List Char) :=
  showFrom [] (pieces markup)

/-- Doubles the backslashes before what could be a tag and adds one. -/
def escapeFrom (cs : List Char) : List Char :=
  match cs with
  | [] => []
  | c :: rest =>
    let slashes := ((c :: rest).takeWhile (· == '\\')).length
    match (c :: rest).drop slashes with
    | '[' :: inside =>
      match tagText? inside with
      | some text =>
        List.replicate (2 * slashes + 1) '\\' ++ '[' :: text ++ ']' ::
          escapeFrom (rest.drop (slashes + text.length + 1))
      | none => c :: escapeFrom rest
    | _ => c :: escapeFrom rest
termination_by cs.length

/-- Whether a text ends in a backslash that is not the second of two. -/
def endsInOneSlash (cs : List Char) : Bool :=
  ['\\'].isSuffixOf cs && !(['\\', '\\'].isSuffixOf cs)

/-- Markup that shows a text as it is, as far as its tags go. A backslash alone at the end is
    doubled. -/
def escape (text : String) : String :=
  let escaped := escapeFrom text.toList
  String.ofList (if endsInOneSlash escaped then escaped ++ ['\\'] else escaped)

end CallOrigin.Console
