import CallOrigin.File.System

/-! # Writing a report

A report is written to a new file beside its target, which then takes the target's place, so
that no reader sees half of it and a refusal leaves everything as it was. -/

namespace CallOrigin.File

/-- The names of a path from the root, without going through any directory: a name before `..`
    goes away with it. -/
def normalized (names : List String) : Location :=
  names.foldl
    (fun at_ name =>
      if name.isEmpty || name == "." then at_
      else if name == ".." then at_.dropLast
      else at_ ++ [name])
    []

/-- What the last name of a path is. -/
inductive LastName where
  /-- A name, perhaps with slashes behind it, below what the other names lead to. -/
  | ordinary (above : List String) (name : String) (slash : Bool)
  /-- The directory itself or the one above, or the root. -/
  | special (above : List String)
deriving Repr, DecidableEq

def LastName.of (names : List String) : LastName :=
  let bare := (names.reverse.dropWhile (·.isEmpty)).reverse
  match bare.getLast? with
  | none => .special []
  | some name =>
    if name == "." || name == ".." then .special bare.dropLast
    else .ordinary bare.dropLast name (bare.length < names.length)

namespace FileSystem

/-- The directory in which a report for a path is first written: the one above it, found from
    the text of the path alone. -/
def draftDirectory (fs : FileSystem) (path : String) : Location :=
  (normalized (fs.origin path ++ names path)).dropLast

/-- The path of a draft of the given name. Two slashes in front, and no more, are kept. -/
def draftPath (fs : FileSystem) (path name : String) : String :=
  let slashes := (path.toList.takeWhile (· == '/')).length
  (fs.draftDirectory path ++ [name]).foldl (fun text name => text ++ "/" ++ name)
    (if slashes == 2 then "/" else "")

/-- The location of the directory in which a report for a path is drafted under the given name. -/
def draftedIn (fs : FileSystem) (path name : String) : Except Refusal Location := do
  accept (fs.draftPath path name)
  fs.directoryAt [] (fs.draftDirectory path)

/-- The location at which a file takes the place of what a path names. A link there is replaced
    itself, and a directory stays. -/
def replaceable (fs : FileSystem) (path : String) : Except Refusal Location := do
  accept path
  match LastName.of (names path) with
  | .special above =>
    let _ ← fs.directoryAt (fs.origin path) above
    .error .busy
  | .ordinary above name slash =>
    let at_ ← fs.directoryAt (fs.origin path) above
    if 255 < name.utf8ByteSize then .error .nameTooLong
    else if slash then .error .notDirectory
    else if fs.entry? (at_ ++ [name]) == some .directory then .error .isDirectory
    else .ok (at_ ++ [name])

/-- Moves the entry at a location into the place of what a path names. -/
def move (fs : FileSystem) (at_ : Location) (path : String) : Except Refusal FileSystem := do
  let place ← fs.replaceable path
  match fs.entry? at_ with
  | some e => .ok ((fs.remove at_).put place e)
  | none => .error .notFound

end FileSystem

/-! ## Drafts -/

/-- The letters among which those of a draft's name are. -/
def draftLetters : List Char :=
  "abcdefghijklmnopqrstuvwxyz0123456789_".toList

/-- The name of a draft with eight letters of its own. -/
def draftNameOf (letters : List Char) : String :=
  ".api-trace-" ++ String.ofList letters ++ ".tmp"

/-- A number of up to eight digits, written with eight. -/
def eightDigits (n : Nat) : List Char :=
  (List.range 8).map fun i => Nat.digitChar (n / Nat.pow 10 (7 - i) % 10)

/-- How many names are tried for a draft. -/
def draftTries : Nat := 10000

/-- How the writing of a file fails: after how many bytes, and why. -/
structure WriteFault where
  written : Nat
  refusal : Refusal
deriving Repr, DecidableEq

/-- What has become of a file system in which something was tried. -/
structure Attempt where
  files : FileSystem
  refusal : Option Refusal
deriving Repr, DecidableEq

namespace FileSystem

/-- A name for a draft that nothing in a directory has, among the first names there are. -/
def freeName? (fs : FileSystem) (directory : Location) : (tries : Nat) → Option String
  | 0 => none
  | tries + 1 =>
    let name := draftNameOf (eightDigits tries)
    if (fs.entry? (directory ++ [name])).isNone then some name
    else fs.freeName? directory tries

/-- Writes the given code points to a draft and moves it to a path. The draft is taken away again
    where it cannot be written, or not moved. -/
def writeDraft (fs : FileSystem) (fault : Option WriteFault) (draft : Location) (path : String)
    (codes : List Nat) : Attempt :=
  let made := fs.put draft (.file [])
  match fault with
  | some f =>
    let broken := made.put draft (.file ((encode codes).take f.written))
    ⟨broken.remove draft, some f.refusal⟩
  | none =>
    let written := made.put draft (.file (encode codes))
    match written.move draft path with
    | .ok files => ⟨files, none⟩
    | .error refusal => ⟨written.remove draft, some refusal⟩

/-- Writes the given code points to a path, through a draft of the given name. -/
def writeThrough (fs : FileSystem) (fault : Option WriteFault) (name path : String)
    (codes : List Nat) : Attempt :=
  match fs.draftedIn path name with
  | .error refusal => ⟨fs, some refusal⟩
  | .ok directory => fs.writeDraft fault (directory ++ [name]) path codes

/-- The name under which a report for a path is drafted. -/
def draftName? (fs : FileSystem) (path : String) : Option String :=
  match fs.directoryAt [] (fs.draftDirectory path) with
  | .ok directory => fs.freeName? directory draftTries
  | .error _ => some (draftNameOf (eightDigits 0))

/-- Writes the given code points to a path, if the writing does not fail. -/
def writeReport (fs : FileSystem) (fault : Option WriteFault) (path : String) (codes : List Nat) :
    Attempt :=
  match fs.draftName? path with
  | some name => fs.writeThrough fault name path codes
  | none => ⟨fs, some .noDraftName⟩

end FileSystem

end CallOrigin.File
