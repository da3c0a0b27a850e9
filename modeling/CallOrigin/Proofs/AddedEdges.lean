import CallOrigin.Proofs.Ascent

/-! # Ways up in a growing graph

A way up asks a graph about the methods that it passes and about nothing else. So two graphs that
agree on what is above those methods have the same way up. A new edge can change it only at a
passed method of the name that the edge calls, and there only if the new caller is chosen.
-/

namespace CallOrigin.CallerGraph

variable {g h : CallerGraph} {codeBehind : String}

/-! ## What a way up depends on -/

theorem Ascends.mem_passed {passed : List Method} {current : Method} {turns : Nat} {way : Ascent}
    (ends : Ascends g codeBehind passed current turns way) {m : Method} (behind : m ∈ passed) :
    m ∈ way.passed := by
  induction ends with
  | again => exact List.mem_reverse.mpr behind
  | outermost => exact List.mem_reverse.mpr (List.mem_cons_of_mem _ behind)
  | up _ _ _ ih => exact ih (List.mem_cons_of_mem _ behind)

/-- The loop takes the same turns in every graph that agrees on what is above the methods passed. -/
theorem Ascends.of_agree {passed : List Method} {current : Method} {turns : Nat} {way : Ascent}
    (ends : Ascends g codeBehind passed current turns way)
    (agree : ∀ m ∈ way.passed, h.next? codeBehind m = g.next? codeBehind m) :
    Ascends h codeBehind passed current turns way := by
  induction ends with
  | again seen => exact .again seen
  | @outermost passed current fresh uncalled =>
      have same := agree current (by simp)
      rw [(next?_eq_none_iff ..).mpr uncalled] at same
      exact .outermost fresh ((next?_eq_none_iff ..).mp same)
  | @up passed current above _ _ fresh next rest ih =>
      have same := agree current (rest.mem_passed List.mem_cons_self)
      exact .up fresh (same.trans next) (ih agree)

theorem ascend_eq_of_agree {start : Method}
    (agree : ∀ m ∈ (g.ascend codeBehind start).passed,
      h.next? codeBehind m = g.next? codeBehind m) :
    h.ascend codeBehind start = g.ascend codeBehind start := by
  obtain ⟨_, _, ends⟩ := ascends_ascend g codeBehind start
  exact (ends.of_agree agree).ascend_eq

/-! ## One edge more -/

theorem mem_callersOf_withEdge (g : CallerGraph) (callee name : String) (caller m : Method) :
    m ∈ (g.withEdge ⟨callee, caller⟩).callersOf name ↔
      m ∈ g.callersOf name ∨ (name = callee ∧ m = caller) := by
  rw [mem_callersOf, mem_callersOf, mem_withEdge, Edge.mk.injEq]

/-- A new edge leaves the choice alone at every method of another name. -/
theorem next?_withEdge_of_ne {callee : String} {m : Method} (other : m.name ≠ callee)
    (caller : Method) :
    (g.withEdge ⟨callee, caller⟩).next? codeBehind m = g.next? codeBehind m := by
  refine chooseCaller?_congr codeBehind m ?_
  intro c
  rw [mem_callersOf_withEdge, or_iff_left_of_imp]
  rintro ⟨same, _⟩
  exact absurd same other

theorem next?_withEdge_self (m caller : Method) :
    (g.withEdge ⟨m.name, caller⟩).next? codeBehind m =
      chooseCaller? codeBehind m (caller :: g.callersOf m.name) := by
  refine chooseCaller?_congr codeBehind m ?_
  intro c
  rw [mem_callersOf_withEdge, List.mem_cons, or_comm]
  simp only [true_and]

/-- A graph that is not frozen takes a new edge. If at each method that a way up passes the edge is
    about another name, or there were callers before and the same one is chosen with the new caller
    among them, then the whole way up is as it was: what it passes, its top and how it ends. -/
theorem ascend_add_unrelated (unfrozen : g.frozen = false) (codeBehind : String) (start : Method)
    (callee : String) (caller : Method)
    (unrelated : ∀ m ∈ (g.ascend codeBehind start).passed, m.name ≠ callee ∨
      (g.callersOf callee ≠ [] ∧
        chooseCaller? codeBehind m (caller :: g.callersOf callee) =
          chooseCaller? codeBehind m (g.callersOf callee))) :
    ∃ grown, g.add ⟨callee, caller⟩ = .ok grown ∧
      grown.ascend codeBehind start = g.ascend codeBehind start := by
  refine ⟨g.withEdge ⟨callee, caller⟩, ?_, ascend_eq_of_agree ?_⟩
  · rw [add_eq, unfrozen]
    rfl
  · intro m passed
    by_cases same : m.name = callee
    · subst same
      obtain ⟨_, unchanged⟩ := (unrelated m passed).resolve_left (not_not_intro rfl)
      exact (next?_withEdge_self m caller).trans unchanged
    · exact next?_withEdge_of_ne same caller

private def loadHere : Method := ⟨"Load", "a.cs"⟩

private def reload : Method := ⟨"Reload", "b.cs"⟩

private def loadThere : Method := ⟨"Load", "c.cs"⟩

private def quit : Method := ⟨"Quit", "d.cs"⟩

private def loading : CallerGraph := empty.withEdges [⟨"Load", reload⟩, ⟨"Reload", loadThere⟩]

/-- A way up that asks for one name from two files and ends in a cycle is not changed by a later
    caller of that name. -/
theorem ascend_add_unrelated_two_files :
    loading.frozen = false ∧
    (∀ m ∈ (loading.ascend ".aspx.cs" loadHere).passed, m.name ≠ "Load" ∨
      (loading.callersOf "Load" ≠ [] ∧
        chooseCaller? ".aspx.cs" m (quit :: loading.callersOf "Load") =
          chooseCaller? ".aspx.cs" m (loading.callersOf "Load"))) ∧
    ∃ grown, loading.add ⟨"Load", quit⟩ = .ok grown ∧
      grown.ascend ".aspx.cs" loadHere = ⟨[loadHere, reload, loadThere], reload, true⟩ := by
  have chosen : ∀ m ∈ [loadHere, loadThere],
      chooseCaller? ".aspx.cs" m (loading.callersOf "Load") = some reload ∧
      chooseCaller? ".aspx.cs" m (quit :: loading.callersOf "Load") = some reload := by
    simp only [chooseCaller?_eq_some_iff]
    decide
  have fromReload : chooseCaller? ".aspx.cs" reload (loading.callersOf reload.name) = some loadThere :=
    (chooseCaller?_eq_some_iff ..).mpr (by decide)
  have way : loading.ascend ".aspx.cs" loadHere = ⟨[loadHere, reload, loadThere], reload, true⟩ :=
    Ascends.ascend_eq (.up (by decide) (chosen loadHere (by decide)).1 (.up (by decide) fromReload
      (.up (by decide) (chosen loadThere (by decide)).1 (.again (by decide)))))
  have unrelated : ∀ m ∈ (loading.ascend ".aspx.cs" loadHere).passed, m.name ≠ "Load" ∨
      (loading.callersOf "Load" ≠ [] ∧
        chooseCaller? ".aspx.cs" m (quit :: loading.callersOf "Load") =
          chooseCaller? ".aspx.cs" m (loading.callersOf "Load")) := by
    intro m passed
    by_cases asked : m ∈ [loadHere, loadThere]
    · exact .inr ⟨by decide, (chosen m asked).2.trans (chosen m asked).1.symm⟩
    · rw [way] at passed
      have isReload : m = reload := by simp_all
      exact .inl (by rw [isReload]; decide)
  obtain ⟨grown, taken, same⟩ :=
    ascend_add_unrelated rfl ".aspx.cs" loadHere "Load" quit unrelated
  exact ⟨rfl, unrelated, grown, taken, same.trans way⟩

end CallOrigin.CallerGraph
