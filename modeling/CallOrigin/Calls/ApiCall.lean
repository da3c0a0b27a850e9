import CallOrigin.Calls.Method

/-! # Calls of the API -/

namespace CallOrigin

/-- A control of a page whose event is bound to a handler. -/
structure Control where
  file : String
  /-- What the control shows, or its whole markup where it shows nothing. -/
  text : String
deriving Repr, DecidableEq

/-- One place in a source at which a method of the API is called. -/
structure ApiCall where
  file : String
  api : String
  endpoint : String
  caller : Method
  line : Int
  col : Int
  /-- The outermost method from which the call is reached, once that is known. -/
  top : Option Method
  /-- The control that the outermost method handles, once that is known. -/
  control : Option Control
deriving Repr, DecidableEq

namespace ApiCall

/-- The outermost method, or the method that contains the call where that is not known. -/
def topOrCaller (c : ApiCall) : Method :=
  c.top.getD c.caller

def placeOrder (a b : ApiCall) : Bool :=
  a.file < b.file ||
    (a.file == b.file && (a.line < b.line || (a.line == b.line && a.col ≤ b.col)))

/-- Calls in the order of their places; those at one place keep theirs. -/
def sorted (calls : List ApiCall) : List ApiCall :=
  calls.mergeSort placeOrder

end ApiCall

end CallOrigin
