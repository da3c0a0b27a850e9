import CallOrigin.File.Contents
import CallOrigin.File.Error

/-! # A file system

A file system is a list of entries by location. A location is the list of names from the root
down and never passes through a link; a path is text, and may pass through links and go up. Names
are text as well: none has bytes that are not UTF-8. -/

namespace CallOrigin.File

/-- The names from the root down to an entry. -/
abbrev Location := List String

inductive Entry where
  | file (content : List UInt8)
  | directory
  /-- A link to the entry at a path, which need not be there. -/
  | link (target : String)
deriving Repr, DecidableEq

def Entry.isLink : Entry → Bool
  | link _ => true
  | _ => false

/-- The names of a path in order. A slash at an end leaves an empty name there. -/
def namesFrom (name : List Char) : List Char → List String
  | [] => [String.ofList name.reverse]
  | c :: rest =>
    if c == '/' then String.ofList name.reverse :: namesFrom [] rest
    else namesFrom (c :: name) rest

def names (path : String) : List String :=
  namesFrom [] path.toList

def isAbsolute (path : String) : Bool :=
  path.toList.head? == some '/'

def joinPath (directory name : String) : String :=
  if isAbsolute name then name
  else if directory.isEmpty || directory.toList.getLast? == some '/' then directory ++ name
  else directory ++ "/" ++ name

/-- A name that stands for an entry of a directory. -/
structure Ordinary (name : String) : Prop where
  nonempty : name ≠ ""
  not_here : name ≠ "."
  not_above : name ≠ ".."

instance (name : String) : Decidable (Ordinary name) :=
  decidable_of_iff (name ≠ "" ∧ name ≠ "." ∧ name ≠ "..")
    ⟨fun ⟨nonempty, not_here, not_above⟩ => ⟨nonempty, not_here, not_above⟩,
      fun ⟨nonempty, not_here, not_above⟩ => ⟨nonempty, not_here, not_above⟩⟩

/-- A name that an entry can have. -/
structure EntryName (name : String) : Prop extends Ordinary name where
  no_slash : '/' ∉ name.toList
  no_null : '\x00' ∉ name.toList
  short : name.utf8ByteSize ≤ 255

instance (name : String) : Decidable (EntryName name) :=
  decidable_of_iff (Ordinary name ∧ '/' ∉ name.toList ∧ '\x00' ∉ name.toList ∧
      name.utf8ByteSize ≤ 255)
    ⟨fun ⟨ordinary, no_slash, no_null, short⟩ => ⟨ordinary, no_slash, no_null, short⟩,
      fun entry => ⟨entry.toOrdinary, entry.no_slash, entry.no_null, entry.short⟩⟩

theorem EntryName.relative {name : String} (entry : EntryName name) : isAbsolute name = false := by
  rw [isAbsolute, beq_eq_false_iff_ne]
  intro first
  exact entry.no_slash (List.mem_of_mem_head? first)

theorem size_lt_joinPath {name : String} (entry : EntryName name) (directory : String) :
    directory.utf8ByteSize < (joinPath directory name).utf8ByteSize := by
  have nonempty : name.utf8ByteSize ≠ 0 := fun zero =>
    entry.nonempty (String.utf8ByteSize_eq_zero_iff.mp zero)
  rw [joinPath, entry.relative, if_neg Bool.false_ne_true]
  split
  · rw [String.utf8ByteSize_append]
    omega
  · rw [String.utf8ByteSize_append, String.utf8ByteSize_append]
    omega

/-- What the system takes of a path, with the byte that ends it. -/
def maxPath : Nat := 4096

/-- That the system takes a path. -/
structure Accepted (path : String) : Prop where
  nonempty : path ≠ ""
  no_null : '\x00' ∉ path.toList
  bounded : path.utf8ByteSize < maxPath

instance (path : String) : Decidable (Accepted path) :=
  decidable_of_iff (path ≠ "" ∧ '\x00' ∉ path.toList ∧ path.utf8ByteSize < maxPath)
    ⟨fun ⟨nonempty, no_null, bounded⟩ => ⟨nonempty, no_null, bounded⟩,
      fun ⟨nonempty, no_null, bounded⟩ => ⟨nonempty, no_null, bounded⟩⟩

def accept (path : String) : Except Refusal Unit :=
  if '\x00' ∈ path.toList then .error .nullCharacter
  else if path.isEmpty then .error .notFound
  else if maxPath ≤ path.utf8ByteSize then .error .nameTooLong
  else .ok ()

theorem accept_eq_ok_iff {path : String} : accept path = .ok () ↔ Accepted path := by
  rw [accept]
  split
  next null => exact ⟨nofun, fun accepted => absurd null accepted.no_null⟩
  next no_null =>
    split
    next empty => exact ⟨nofun, fun accepted => absurd (String.isEmpty_iff.mp empty) accepted.nonempty⟩
    next nonempty =>
      split
      next long => exact ⟨nofun, fun accepted => absurd accepted.bounded (Nat.not_lt.mpr long)⟩
      next short =>
        refine ⟨fun _ => ⟨?_, no_null, Nat.lt_of_not_le short⟩, fun _ => rfl⟩
        rintro rfl
        exact nonempty rfl

attribute [irreducible] accept

/-- Entries by location, and the location that relative paths start at. -/
structure FileSystem where
  entries : List (Location × Entry)
  current : Location
deriving Repr, DecidableEq

namespace FileSystem

/-- The entry at a location. The root is a directory. -/
def entry? (fs : FileSystem) (at_ : Location) : Option Entry :=
  if at_.isEmpty then some .directory else fs.entries.lookup at_

/-- The location that names lead to from a directory. All but the last have to lead to
    directories, and the last may name an entry that is not there. A link is followed, the last
    one only if `last` says so; `links` more of them may be. -/
def follow (fs : FileSystem) (last : Bool) (links : Nat) (directory : Location)
    (path : List String) : Except Refusal Location :=
  match path with
  | [] => .ok directory
  | name :: rest =>
    if name.isEmpty || name == "." then fs.follow last links directory rest
    else if name == ".." then fs.follow last links directory.dropLast rest
    else if 255 < name.utf8ByteSize then .error .nameTooLong
    else
      let here := directory ++ [name]
      match fs.entry? here with
      | none => if rest.isEmpty then .ok here else .error .notFound
      | some .directory => fs.follow last links here rest
      | some (.file _) => if rest.isEmpty then .ok here else .error .notDirectory
      | some (.link target) =>
        if rest.isEmpty && !last then .ok here
        else
          match links with
          | 0 => .error .tooManyLinks
          | links + 1 =>
            fs.follow last links (if isAbsolute target then [] else directory)
              (names target ++ rest)
termination_by (links, path.length)

def maxLinks : Nat := 40

def origin (fs : FileSystem) (path : String) : Location :=
  if isAbsolute path then [] else fs.current

/-- The location of a path, whether or not anything is there. A link in the last place is followed
    only if `last` says so. -/
def resolve (fs : FileSystem) (last : Bool) (path : String) : Except Refusal Location := do
  accept path
  fs.follow last maxLinks (fs.origin path) (names path)

def locate (fs : FileSystem) (path : String) : Except Refusal Location :=
  fs.resolve true path

/-- A location again, if a directory is there. -/
def enter (fs : FileSystem) (at_ : Location) : Except Refusal Location :=
  match fs.entry? at_ with
  | some .directory => .ok at_
  | some _ => .error .notDirectory
  | none => .error .notFound

/-- The location of the directory that names lead to. -/
def directoryAt (fs : FileSystem) (start : Location) (path : List String) :
    Except Refusal Location := do
  fs.enter (← fs.follow true maxLinks start path)

/-- The location of the directory that a path leads to. -/
def scan (fs : FileSystem) (path : String) : Except Refusal Location := do
  fs.enter (← fs.locate path)

def isDirectory (fs : FileSystem) (path : String) : Bool :=
  match fs.scan path with
  | .ok _ => true
  | .error _ => false

def isLink (fs : FileSystem) (path : String) : Bool :=
  match fs.resolve false path with
  | .ok at_ => (fs.entry? at_).any Entry.isLink
  | .error _ => false

def read (fs : FileSystem) (path : String) : Except Refusal (List UInt8) := do
  match fs.entry? (← fs.locate path) with
  | some (.file content) => .ok content
  | some .directory => .error .isDirectory
  | _ => .error .notFound

def readText (fs : FileSystem) (path : String) : Except Refusal String :=
  (fs.read path).map decode

def remove (fs : FileSystem) (at_ : Location) : FileSystem :=
  { fs with entries := fs.entries.filter (·.1 != at_) }

/-- Puts an entry at a location in place of any that is there. -/
def put (fs : FileSystem) (at_ : Location) (e : Entry) : FileSystem :=
  { fs with entries := (fs.remove at_).entries ++ [(at_, e)] }

/-- Makes the directories that names lead through from a directory, as far as they are not
    there, and gives the location of the last. -/
def makeDirectories (fs : FileSystem) (directory : Location) : List String →
    FileSystem × Location
  | [] => (fs, directory)
  | name :: rest =>
    match fs.follow true maxLinks directory [name] with
    | .ok here =>
      let fs := if (fs.entry? here).isNone then fs.put here .directory else fs
      fs.makeDirectories here rest
    | .error _ => (fs, directory)

/-- Puts an entry at a path in place of any that is there, with the directories above it. -/
def create (fs : FileSystem) (path : String) (e : Entry) : FileSystem :=
  let (fs, directory) := fs.makeDirectories (fs.origin path) (names path).dropLast
  match (names path).getLast? with
  | some name => fs.put (directory ++ [name]) e
  | none => fs

/-- Makes a directory at a path, with the directories above it. -/
def createDirectory (fs : FileSystem) (path : String) : FileSystem :=
  (fs.makeDirectories (fs.origin path) (names path)).1

end FileSystem

end CallOrigin.File
