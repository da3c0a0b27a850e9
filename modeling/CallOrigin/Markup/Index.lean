import CallOrigin.Calls.ApiCall
import CallOrigin.Event
import CallOrigin.Markup.Binding

/-! # Looking up handlers in markup

The markup files of a project, and the answers given so far. An answer once given stands, also
for a handler that nothing is bound to. -/

namespace CallOrigin.Markup

/-- A markup file that has been read. -/
structure Page where
  path : String
  content : String
deriving Repr, DecidableEq

def Page.order (a b : Page) : Bool :=
  a.path < b.path || (a.path == b.path && a.content ≤ b.content)

def Page.control? (events : List String) (handler : String) (p : Page) : Option Control :=
  (shownBy? events p.content handler).map (⟨p.path, ·⟩)

/-- The control that the first of several pages binds to a handler. -/
def control? (events : List String) (pages : List Page) (handler : String) : Option Control :=
  pages.findSome? (·.control? events handler)

/-- Pages and the answers given from them. -/
structure Index where
  pages : List Page
  /-- The attributes that bind a control to a handler. -/
  events : List String
  /-- The answer for each handler that has been looked up. -/
  answers : List (String × Option Control)
deriving Repr, DecidableEq

namespace Index

/-- An index of pages, in their order, with no answer given yet. -/
def ofPages (events : List String) (pages : List Page) : Index :=
  ⟨pages.mergeSort Page.order, events, []⟩

def size (x : Index) : Nat := x.pages.length

def clearPages (x : Index) : Index := { x with pages := [] }

/-- The control bound to a handler, and the index with that answer. That nothing is bound to a
    handler is an event only when it is first found out. -/
def find (x : Index) (handler : String) : Logged (Option Control × Index) :=
  match x.answers.lookup handler with
  | some answer => .quiet (answer, x)
  | none =>
    let answer := control? x.events x.pages handler
    ⟨(answer, { x with answers := (handler, answer) :: x.answers }),
      if answer.isNone then [.unbound handler] else []⟩

end Index

end CallOrigin.Markup
