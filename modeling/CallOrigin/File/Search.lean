import CallOrigin.File.System
import CallOrigin.Text.Case

/-! # Finding files

The files below a root whose names end in one of several ways. The directories are gone through
from the root down; one that cannot be listed is passed over. A link to a directory is neither a
file nor entered; any other link counts as a file, also if it leads nowhere. -/

namespace CallOrigin.File

structure RootError where
  root : String
  reason : String
deriving Repr, DecidableEq

def RootError.message (e : RootError) : String :=
  "Cannot scan root directory " ++ e.root ++ ": " ++ e.reason

namespace FileSystem

/-- Refuses a root that is no directory or that cannot be listed for the given reason. -/
def checkRoot (fs : FileSystem) (root : String) (fault : Option ListFault) :
    Except RootError Unit :=
  if !fs.isDirectory root then .error ⟨root, "not a directory"⟩
  else
    match fault with
    | some f => .error ⟨root, f.reason⟩
    | none => .ok ()

/-- The names in a directory. -/
def namesIn (fs : FileSystem) (directory : Location) : List String :=
  ((fs.entries.filter (·.1.dropLast == directory)).filterMap (·.1.getLast?)).eraseDups.filter
    (EntryName ·)

/-- Whether a name in a directory stands for a directory. A link does if one comes to a directory
    by its own path, which is that of the directory and the name. -/
def isDirectoryIn (fs : FileSystem) (path : String) (directory : Location) (name : String) : Bool :=
  match fs.entry? (directory ++ [name]) with
  | some .directory => true
  | some (.link _) => fs.isDirectory (joinPath path name)
  | _ => false

/-- Whether a file name ends in one of several ways, case apart. -/
def endsInOne (extensions : List String) (name : String) : Bool :=
  extensions.any (Text.endsLike name)

theorem size_lt_of_scan {fs : FileSystem} {path : String} {at_ : Location}
    (scanned : fs.scan path = .ok at_) : path.utf8ByteSize < maxPath := by
  rw [scan, locate, resolve] at scanned
  cases accepted : accept path with
  | error refusal =>
      rw [accepted] at scanned
      cases scanned
  | ok => exact (accept_eq_ok_iff.mp accepted).bounded

/-- The paths of the files in a directory whose names end in one of several ways, and of those below
    the directories inside of it, in the order in which each directory is listed. -/
def walk (fs : FileSystem) (listed : Location → List String) (extensions : List String)
    (path : String) : List String :=
  match _scanned : fs.scan path with
  | .error _ => []
  | .ok directory =>
    let files := (listed directory).filter fun name =>
      !fs.isDirectoryIn path directory name && endsInOne extensions name
    files.map (joinPath path) ++
      (listed directory).flatMap fun name =>
        if _inside : EntryName name ∧ fs.isDirectoryIn path directory name = true ∧
            fs.isLink (joinPath path name) = false then
          fs.walk listed extensions (joinPath path name)
        else []
termination_by maxPath - path.utf8ByteSize
decreasing_by
  have short := size_lt_of_scan _scanned
  have longer := size_lt_joinPath _inside.1 path
  omega

/-- The paths, below the path of a root, of the files inside of it whose names end in one of
    several ways, in increasing order. -/
def findFiles (fs : FileSystem) (root : String) (extensions : List String) : List String :=
  (fs.walk fs.namesIn extensions root).mergeSort

end FileSystem

end CallOrigin.File
