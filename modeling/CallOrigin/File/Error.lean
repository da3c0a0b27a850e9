import CallOrigin.Text.Quoted

/-! # Refusals of a file system -/

namespace CallOrigin.File

/-- Why a file system refuses to do something. -/
inductive Refusal where
  | notFound
  /-- A name that does not stand for a directory is used as one. -/
  | notDirectory
  | isDirectory
  | nameTooLong
  | tooManyLinks
  /-- The current directory, or the one above, is to be replaced. -/
  | busy
  /-- A path holds the character that ends paths. -/
  | nullCharacter
  /-- All names that a draft can have are taken. -/
  | noDraftName
  /-- The medium fails, with a number and words of its own. -/
  | medium (code : Nat) (reason : String)
deriving Repr, DecidableEq

namespace Refusal

/-- The number of a refusal; what is wrong with a path alone has none. -/
def code? : Refusal → Option Nat
  | notFound => some 2
  | busy => some 16
  | noDraftName => some 17
  | notDirectory => some 20
  | isDirectory => some 21
  | nameTooLong => some 36
  | tooManyLinks => some 40
  | medium code _ => some code
  | nullCharacter => none

def reason : Refusal → String
  | notFound => "No such file or directory"
  | busy => "Device or resource busy"
  | noDraftName => "No usable temporary file name found"
  | notDirectory => "Not a directory"
  | isDirectory => "Is a directory"
  | nameTooLong => "File name too long"
  | tooManyLinks => "Too many levels of symbolic links"
  | medium _ reason => reason
  | nullCharacter => "embedded null byte"

/-- Whether a refusal is about a path, which its message then names. -/
def namesPath : Refusal → Bool
  | noDraftName | medium .. | nullCharacter => false
  | _ => true

def message (r : Refusal) (path : String) : String :=
  let number := match r.code? with
    | some code => "[Errno " ++ toString code ++ "] "
    | none => ""
  let place := if r.namesPath then ": " ++ Text.Quoted.quote path else ""
  number ++ r.reason ++ place

end Refusal

/-- Why a directory that is there cannot be listed. -/
inductive ListFault where
  | numbered (code : Int) (reason : String)
  | plain (text : String)
deriving Repr, DecidableEq

/-- The words of a fault; where it has none, its number stands for them. -/
def ListFault.reason : ListFault → String
  | numbered code reason =>
    if reason.isEmpty then "[Errno " ++ toString code ++ "] " ++ reason else reason
  | plain text => text

end CallOrigin.File
