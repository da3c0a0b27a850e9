import CallOrigin.Text.Matcher

/-! # Controls in markup

A server control whose opening tag binds one of the event attributes to a handler. The markup
is searched as text: a control ends at its first closing tag, whatever stands between. -/

namespace CallOrigin.Markup

open CallOrigin.Text

structure Found where
  /-- What stands between its tags, if it has a closing one. -/
  inner : Option (List Char)
  rest : List Char
deriving Repr, DecidableEq

def inTag (c : Char) : Bool := c != '>'

def closingTag : Matcher Found :=
  fun next => Matcher.letters "</asp:".toList <| Matcher.some1 isWord <| Matcher.most isBlank <|
    Matcher.letters ['>'] next

/-- The end of a control: the slash that closes its one tag, or the end of its opening tag, its
    content and a closing tag. -/
def controlEnd (at_ : Cursor) : Option Found :=
  (Matcher.letters "/>".toList (fun after => some ⟨none, after.rest⟩) at_).or
    (Matcher.letters ['>']
      (fun content => Matcher.fewest (fun _ => true)
        (fun close => closingTag
          (fun after => some
            ⟨some (content.rest.take (content.rest.length - close.rest.length)), after.rest⟩)
          close)
        content)
      at_)

/-- A control at a place: the beginning of its tag, an event attribute with the quoted handler
    for a value, and its end. -/
def controlAt (events : List String) (handler : String) (at_ : Cursor) : Option Found :=
  (Matcher.letters "<asp:".toList <| Matcher.some1 isWord <| Matcher.fewest inTag <|
    Matcher.boundary <| Matcher.spelling events <| Matcher.most isBlank <|
    Matcher.letters ['='] <| Matcher.most isBlank <|
    Matcher.letters ('"' :: handler.toList ++ ['"']) <| Matcher.fewest inTag controlEnd) at_

/-- What a control shows: the text between its tags without the blanks around it, or the whole
    markup of the control where there is none. -/
def Found.shown (f : Found) (whole : List Char) : String :=
  let inner := trimBy isBlank (f.inner.getD [])
  String.ofList (if inner.isEmpty then trimBy isBlank whole else inner)

/-- What the first control from a place on shows, if there is one bound to the handler. -/
def searchFrom (events : List String) (handler : String) (before : Option Char) :
    (rest : List Char) → Option String
  | [] =>
    (controlAt events handler ⟨before, []⟩).map (·.shown [])
  | c :: rest =>
    match controlAt events handler ⟨before, c :: rest⟩ with
    | some f => some (f.shown ((c :: rest).take ((c :: rest).length - f.rest.length)))
    | none => searchFrom events handler (some c) rest

/-- What the first control in a text shows that is bound to the handler. -/
def shownBy? (events : List String) (content handler : String) : Option String :=
  searchFrom events handler none content.toList

end CallOrigin.Markup
