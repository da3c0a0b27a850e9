import CallOrigin.Calls.Graph
import CallOrigin.Text.Case

/-! # The way up

From a method to one that calls it, and so on, until nothing calls the last one or a method comes
up a second time. -/

namespace CallOrigin

/-- The caller to go up to. One in another file wins over one in the same file, which is mostly
    a local helper; then one in a code-behind file wins; then the first by file and name. -/
def chooseCaller? (codeBehind : String) (current : Method) (callers : List Method) :
    Option Method :=
  let elsewhere := callers.filter (·.file != current.file)
  let candidates := (if elsewhere.isEmpty then callers else elsewhere).mergeSort Method.fileOrder
  (candidates.find? fun m => Text.endsLike m.file codeBehind).or candidates.head?

/-- A way up. -/
structure Ascent where
  /-- The methods passed, in order, each of them once. -/
  passed : List Method
  top : Method
  /-- Whether it ends because its top had been passed before. -/
  cyclic : Bool
deriving Repr, DecidableEq

namespace CallerGraph

/-- The method above another one. -/
def next? (g : CallerGraph) (codeBehind : String) (m : Method) : Option Method :=
  chooseCaller? codeBehind m (g.callersOf m.name)

/-- Goes up from `current`, at most `fuel` times; `passed` holds what is below, last first. -/
def ascendFrom (g : CallerGraph) (codeBehind : String) : (fuel : Nat) → (passed : List Method) →
    (current : Method) → Ascent
  | 0, passed, current => ⟨passed.reverse, current, true⟩
  | fuel + 1, passed, current =>
    if passed.contains current then ⟨passed.reverse, current, true⟩
    else
      match g.next? codeBehind current with
      | none => ⟨(current :: passed).reverse, current, false⟩
      | some above => g.ascendFrom codeBehind fuel (current :: passed) above

/-- The way up from a method. Every step but the first starts at the caller of an edge, and no
    method is left twice, so that there are no more steps than edges and one. -/
def ascend (g : CallerGraph) (codeBehind : String) (start : Method) : Ascent :=
  g.ascendFrom codeBehind (g.edgeCount + 2) [] start

end CallerGraph

end CallOrigin
