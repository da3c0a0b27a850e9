import CallOrigin.Text.Blank
import CallOrigin.Text.Case

/-! # Styles by name

A style tag can be spelt in several ways. The normal form of a name lists its attributes in a
fixed order, then its colours and its link; a name that is no style is only trimmed and put in
lower case. -/

namespace CallOrigin.Console

def words (text : List Char) : List String :=
  let step (state : List String × List Char) (c : Char) : List String × List Char :=
    if Text.isBlank c then
      (if state.2.isEmpty then state.1 else state.1 ++ [String.ofList state.2], [])
    else (state.1, state.2 ++ [c])
  let (done, last) := text.foldl step ([], [])
  if last.isEmpty then done else done ++ [String.ofList last]

/-- A style. -/
structure Style where
  attributes : List (String × Bool)
  color : Option String
  background : Option String
  link : Option String
deriving Repr, DecidableEq

namespace Style

/-- The attributes in the order of a normal form. -/
def attributeNames : List String :=
  ["bold", "dim", "italic", "underline", "blink", "blink2", "reverse", "conceal", "strike",
   "underline2", "frame", "encircle", "overline"]

/-- Short spellings of attributes. -/
def shortNames : List (String × String) :=
  [("b", "bold"), ("d", "dim"), ("i", "italic"), ("u", "underline"), ("r", "reverse"),
   ("c", "conceal"), ("s", "strike"), ("uu", "underline2"), ("o", "overline")]

def attribute? (word : String) : Option String :=
  if attributeNames.contains word then some word else shortNames.lookup word

/-- The colours that have a name of their own on every terminal. -/
def colorNames : List String :=
  let plain := ["black", "red", "green", "yellow", "blue", "magenta", "cyan", "white"]
  "default" :: plain ++ plain.map ("bright_" ++ ·)

/-- Whether a text is a number of at most three digits that a byte can hold. -/
def isByte (cs : List Char) : Bool :=
  !cs.isEmpty && cs.length ≤ 3 && cs.all Char.isDigit
    && cs.foldl (fun n c => n * 10 + (c.toNat - 48)) 0 ≤ 255

/-- Whether a word spells a colour: by name, by six hexadecimal digits, or by number. -/
def isColor (word : String) : Bool :=
  let isHex (c : Char) : Bool := c.isDigit || ('a' ≤ c && c ≤ 'f')
  let cs := word.toList
  colorNames.contains word
    || (cs.head? == some '#' && cs.length == 7 && cs.tail.all isHex)
    || ("color(".toList.isPrefixOf cs && [')'].isSuffixOf cs && isByte (cs.drop 6).dropLast)

def set (s : Style) (name : String) (on : Bool) : Style :=
  { s with attributes := (name, on) :: s.attributes.filter (·.1 != name) }

/-- Reads the words of a style into one that is under way. -/
def ofWords? (s : Style) : List String → Option Style
  | [] => some s
  | word :: rest =>
    match Text.lower word, rest with
    | "on", color :: rest =>
      if isColor (Text.lower color) then ofWords? { s with background := some (Text.lower color) } rest
      else none
    | "not", name :: rest =>
      (attribute? name).bind fun name => ofWords? (s.set name false) rest
    | "link", target :: rest => ofWords? { s with link := some target } rest
    | lowered, rest =>
      match attribute? lowered with
      | some name => ofWords? (s.set name true) rest
      | none => if isColor lowered then ofWords? { s with color := some lowered } rest else none

def text (s : Style) : String :=
  let attributes := attributeNames.filterMap fun name =>
    (s.attributes.lookup name).map fun on => if on then name else "not " ++ name
  let color := s.color.toList
  let background := (s.background.map ("on " ++ ·)).toList
  let link := (s.link.map ("link " ++ ·)).toList
  let parts := attributes ++ color ++ background ++ link
  if parts.isEmpty then "none" else " ".intercalate parts

def normalized (name : String) : String :=
  match words name.toList with
  | ["none"] => "none"
  | parts =>
    match ofWords? ⟨[], none, none, none⟩ parts with
    | some s => s.text
    | none => Text.lower (Text.strip name)

end Style

end CallOrigin.Console
