import CallOrigin.Calls.Ascent
import CallOrigin.Proofs.Edges

/-! # The choice of a caller

A method with callers has a method above it, and that is one of its callers.
-/

namespace CallOrigin

/-- The callers to choose from, the first by file and name first. -/
def candidates (current : Method) (callers : List Method) : List Method :=
  (if (callers.filter (·.file != current.file)).isEmpty then callers
    else callers.filter (·.file != current.file)).mergeSort Method.fileOrder

theorem chooseCaller?_eq (codeBehind : String) (current : Method) (callers : List Method) :
    chooseCaller? codeBehind current callers =
      ((candidates current callers).find? fun m => Text.endsLike m.file codeBehind).or
        (candidates current callers).head? := rfl

/-- Callers in the method's own file are candidates only if there are no others. -/
theorem mem_candidates_iff (current m : Method) (callers : List Method) :
    m ∈ candidates current callers ↔
      m ∈ callers ∧ (m.file = current.file → ∀ c ∈ callers, c.file = current.file) := by
  rw [candidates, List.mem_mergeSort]
  split
  · rename_i noneElsewhere
    have allHere : ∀ c ∈ callers, c.file = current.file := by
      simpa [List.filter_eq_nil_iff] using noneElsewhere
    exact ⟨fun inside => ⟨inside, fun _ => allHere⟩, And.left⟩
  · rename_i someElsewhere
    have notAllHere : ¬ ∀ c ∈ callers, c.file = current.file := by
      simpa [List.filter_eq_nil_iff] using someElsewhere
    simp [List.mem_filter, notAllHere]

theorem candidates_eq_nil_iff (current : Method) (callers : List Method) :
    candidates current callers = [] ↔ callers = [] := by
  rw [candidates, ← List.length_eq_zero_iff, List.length_mergeSort, List.length_eq_zero_iff]
  split
  · rfl
  · rename_i someElsewhere
    constructor
    · intro none
      exact absurd (List.isEmpty_iff.mpr none) someElsewhere
    · rintro rfl
      rfl

theorem mem_candidates_of_chooseCaller? {codeBehind : String} {current chosen : Method}
    {callers : List Method} (choice : chooseCaller? codeBehind current callers = some chosen) :
    chosen ∈ candidates current callers := by
  rw [chooseCaller?_eq, Option.or_eq_some_iff] at choice
  rcases choice with found | ⟨_, first⟩
  · exact List.mem_of_find?_eq_some found
  · exact List.mem_of_head? first

theorem mem_of_chooseCaller? {codeBehind : String} {current chosen : Method}
    {callers : List Method} (choice : chooseCaller? codeBehind current callers = some chosen) :
    chosen ∈ callers :=
  ((mem_candidates_iff ..).mp (mem_candidates_of_chooseCaller? choice)).1

theorem chooseCaller?_eq_none_iff (codeBehind : String) (current : Method)
    (callers : List Method) : chooseCaller? codeBehind current callers = none ↔ callers = [] := by
  rw [chooseCaller?_eq, Option.or_eq_none_iff, List.head?_eq_none_iff, candidates_eq_nil_iff]
  constructor
  · exact And.right
  · intro none
    rw [(candidates_eq_nil_iff current callers).mpr none]
    exact ⟨rfl, none⟩

theorem exists_chooseCaller? (codeBehind : String) (current : Method) {callers : List Method}
    (called : callers ≠ []) : ∃ chosen, chooseCaller? codeBehind current callers = some chosen :=
  Option.ne_none_iff_exists'.mp (mt (chooseCaller?_eq_none_iff ..).mp called)

namespace CallerGraph

/-- What is above a method calls it. -/
theorem edge_of_next? {g : CallerGraph} {codeBehind : String} {m above : Method}
    (next : g.next? codeBehind m = some above) : ⟨m.name, above⟩ ∈ g.edges :=
  (g.mem_callersOf m.name above).mp (mem_of_chooseCaller? next)

/-- Nothing is above a method exactly if nothing calls it. -/
theorem next?_eq_none_iff (g : CallerGraph) (codeBehind : String) (m : Method) :
    g.next? codeBehind m = none ↔ g.callersOf m.name = [] :=
  chooseCaller?_eq_none_iff ..

theorem called_of_next? {g : CallerGraph} {codeBehind : String} {m above : Method}
    (next : g.next? codeBehind m = some above) : g.callersOf m.name ≠ [] := by
  intro uncalled
  rw [(next?_eq_none_iff ..).mpr uncalled] at next
  cases next

end CallerGraph

end CallOrigin
