import CallOrigin.Text.Blank
import CallOrigin.Text.Case
import CallOrigin.Text.Word

/-! # Matching with backtracking

A matcher tries its ways to go on in order of preference and hands each to what comes after it,
until one leads to a result. -/

namespace CallOrigin.Text

/-- A place in a text. -/
structure Cursor where
  before : Option Char
  rest : List Char
deriving Repr, DecidableEq

/-- Tries places to go on from, in order of preference. -/
abbrev Matcher (α : Type) := (Cursor → Option α) → Cursor → Option α

namespace Matcher

variable {α : Type}

def letters : List Char → Matcher α
  | [], next, at_ => next at_
  | p :: pattern, next, at_ =>
    match at_.rest with
    | c :: rest => if sameLetter p c then letters pattern next ⟨some c, rest⟩ else none
    | [] => none

/-- As few characters of a class as possible, those of `rest` being ahead. -/
def fewestFrom (p : Char → Bool) (next : Cursor → Option α) (before : Option Char) :
    (rest : List Char) → Option α
  | [] => next ⟨before, []⟩
  | c :: rest =>
    (next ⟨before, c :: rest⟩).or (if p c then fewestFrom p next (some c) rest else none)

def fewest (p : Char → Bool) : Matcher α :=
  fun next at_ => fewestFrom p next at_.before at_.rest

/-- As many characters of a class as possible, those of `rest` being ahead. -/
def mostFrom (p : Char → Bool) (next : Cursor → Option α) (before : Option Char) :
    (rest : List Char) → Option α
  | [] => next ⟨before, []⟩
  | c :: rest =>
    (if p c then mostFrom p next (some c) rest else none).or (next ⟨before, c :: rest⟩)

def most (p : Char → Bool) : Matcher α :=
  fun next at_ => mostFrom p next at_.before at_.rest

/-- As many characters of a class as possible, one at least. -/
def some1 (p : Char → Bool) : Matcher α :=
  fun next at_ =>
    match at_.rest with
    | c :: rest => if p c then most p next ⟨some c, rest⟩ else none
    | [] => none

/-- Nothing, between a word character and one that is none. -/
def boundary : Matcher α :=
  fun next at_ =>
    if at_.before.any isWord == at_.rest.head?.any isWord then none else next at_

/-- One of several spellings, the first that leads to a result; nothing where there are none. -/
def spelling : List String → Matcher α
  | [], next, at_ => next at_
  | spellings, next, at_ => spellings.findSome? fun s => letters s.toList next at_

end Matcher

end CallOrigin.Text
