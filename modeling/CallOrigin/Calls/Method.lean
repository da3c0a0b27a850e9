/-! # Methods

A method is known by its name and the file that declares it, so overloads in one file are one
method. -/

namespace CallOrigin

/-- A method of the scanned sources. -/
structure Method where
  name : String
  file : String
deriving Repr, DecidableEq

namespace Method

def text (m : Method) : String :=
  m.name ++ " (" ++ m.file ++ ")"

def fileOrder (a b : Method) : Bool :=
  a.file < b.file || (a.file == b.file && a.name ≤ b.name)

end Method

end CallOrigin
