import CallOrigin.Proofs.Outermost

/-! # Methods that call themselves

A method that calls its own name is one of its callers and takes part in the choice among them.
Every caller in another file is preferred to it, and of those in its own file the first by name is
chosen. So it is chosen exactly if all that call it are in its file and its name is the first. Then
the way up ends at it, whatever else calls it.
-/

namespace CallOrigin.CallerGraph

/-- A method that calls itself, where all others that call it are in its file, with later names. -/
def FirstOfItsCallers (g : CallerGraph) (m : Method) : Prop :=
  m ∈ g.callersOf m.name ∧
    ∀ c ∈ g.callersOf m.name, c ≠ m → c.file = m.file ∧ m.name < c.name

theorem callerRank_self_le_iff (codeBehind : String) (m c : Method) :
    callerRank codeBehind m m ≤ callerRank codeBehind m c ↔ c.file = m.file ∧ m.name ≤ c.name := by
  rw [callerRank_le_iff]
  by_cases same : c.file = m.file
  · simp [same, Method.fileOrder]
  · simp [same]

theorem next?_eq_self_iff (g : CallerGraph) (codeBehind : String) (m : Method) :
    g.next? codeBehind m = some m ↔ g.FirstOfItsCallers m := by
  rw [next?, chooseCaller?_eq_some_iff, FirstOfItsCallers]
  refine and_congr_right fun _ => forall₂_congr fun c _ => ?_
  rw [callerRank_self_le_iff]
  constructor
  · rintro ⟨sameFile, notAfter⟩ different
    refine ⟨sameFile, lt_of_le_of_ne notAfter ?_⟩
    intro sameName
    exact different (Method.ext sameName.symm sameFile)
  · intro later
    by_cases same : c = m
    · subst same
      exact ⟨rfl, le_rfl⟩
    · exact ⟨(later same).1, (later same).2.le⟩

/-- The way back to a method begins with the method above it. -/
theorem onCycle_iff (g : CallerGraph) (codeBehind : String) (m : Method) :
    g.OnCycle codeBehind m ↔
      ∃ above, g.next? codeBehind m = some above ∧ ∃ k, g.climb codeBehind above k = some m := by
  constructor
  · rintro ⟨k, steps, back⟩
    obtain ⟨k, rfl⟩ := Nat.exists_eq_add_one_of_ne_zero (Nat.ne_of_gt steps)
    rw [climb_succ_left, Option.bind_eq_some_iff] at back
    obtain ⟨above, next, back⟩ := back
    exact ⟨above, next, k, back⟩
  · rintro ⟨above, next, k, back⟩
    refine ⟨k + 1, Nat.succ_pos k, ?_⟩
    rw [climb_succ_left, next, Option.bind_some, back]

theorem exists_ascend_top_eq_iff (g : CallerGraph) (codeBehind : String) (m : Method) :
    (∃ start, (g.ascend codeBehind start).top = m) ↔ g.Outermost codeBehind m := by
  constructor
  · rintro ⟨start, rfl⟩
    exact outermost_ascend_top g codeBehind start
  · intro isOutermost
    exact ⟨m, ascend_top_of_outermost isOutermost⟩

/-- A method with another caller than itself goes up to a different one, unless it calls itself and
    all its other callers are in its file, with later names. It is the end of a way up in that case
    and where the choice leads from it to a different method and back, and in no other. -/
theorem self_chosen_iff (g : CallerGraph) (codeBehind : String) (m : Method)
    (calledByOther : ∃ c ∈ g.callersOf m.name, c ≠ m) :
    (∃ chosen, chooseCaller? codeBehind m (g.callersOf m.name) = some chosen ∧
      (chosen = m ↔ g.FirstOfItsCallers m)) ∧
    ((∃ start, (g.ascend codeBehind start).top = m) ↔
      g.FirstOfItsCallers m ∨
        ∃ above, above ≠ m ∧ chooseCaller? codeBehind m (g.callersOf m.name) = some above ∧
          ∃ k, g.climb codeBehind above k = some m) := by
  obtain ⟨other, calls, _⟩ := calledByOther
  have called : g.callersOf m.name ≠ [] := List.ne_nil_of_mem calls
  obtain ⟨chosen, next⟩ := exists_chooseCaller? codeBehind m called
  have itself : chosen = m ↔ g.FirstOfItsCallers m := by
    rw [← next?_eq_self_iff g codeBehind, next?, next, Option.some.injEq]
  refine ⟨⟨chosen, next, itself⟩, ?_⟩
  -- A method that is called ends a way up only from a cycle, which may be as short as one call.
  rw [exists_ascend_top_eq_iff, Outermost, or_iff_right called, onCycle_iff]
  constructor
  · rintro ⟨above, nextAbove, back⟩
    by_cases same : above = m
    · subst same
      exact .inl ((next?_eq_self_iff ..).mp nextAbove)
    · exact .inr ⟨above, same, nextAbove, back⟩
  · rintro (first | ⟨above, _, nextAbove, back⟩)
    · exact ⟨m, (next?_eq_self_iff ..).mpr first, 0, rfl⟩
    · exact ⟨above, nextAbove, back⟩

private def retry : Method := ⟨"Retry", "Page.aspx.cs"⟩

private def retriedBy (caller : Method) : CallerGraph :=
  (empty.withEdges [⟨"Retry", retry⟩, ⟨"Retry", caller⟩]).freeze

private def load : Method := ⟨"Load", "Page.aspx.cs"⟩

/-- A caller in the same file with an earlier name is chosen before the method itself, which then
    is not the end of any way up. -/
theorem self_chosen_iff_earlier_caller :
    (∃ c ∈ (retriedBy load).callersOf retry.name, c ≠ retry) ∧
    (∃ chosen, chooseCaller? ".aspx.cs" retry ((retriedBy load).callersOf retry.name) =
      some chosen ∧ chosen ≠ retry) ∧
    ¬ ∃ start, ((retriedBy load).ascend ".aspx.cs" start).top = retry := by
  have calledByOther : ∃ c ∈ (retriedBy load).callersOf retry.name, c ≠ retry := by decide
  have notFirst : ¬ (retriedBy load).FirstOfItsCallers retry := by
    rintro ⟨_, later⟩
    exact absurd (later load (by decide) (by decide)) (by decide)
  have choice : chooseCaller? ".aspx.cs" retry ((retriedBy load).callersOf retry.name) = some load :=
    (chooseCaller?_eq_some_iff ..).mpr (by decide)
  obtain ⟨⟨chosen, next, itself⟩, ends⟩ := self_chosen_iff _ ".aspx.cs" retry calledByOther
  refine ⟨calledByOther, ⟨chosen, next, mt itself.mp notFirst⟩, ?_⟩
  rw [ends]
  rintro (first | ⟨above, _, next, k, back⟩)
  · exact notFirst first
  · cases choice.symm.trans next
    cases k with
    | zero => exact absurd back (by decide)
    | succ k =>
        rw [climb_succ_left, (next?_eq_none_iff ..).mpr (by decide)] at back
        cases back

private def submit : Method := ⟨"Submit_Click", "Page.aspx.cs"⟩

/-- A method that calls itself goes up to itself, although a handler of its file calls it, because
    the handler's name is the later one. -/
theorem self_chosen_before_handler :
    (∃ c ∈ (retriedBy submit).callersOf retry.name, c ≠ retry) ∧
    chooseCaller? ".aspx.cs" retry ((retriedBy submit).callersOf retry.name) = some retry ∧
    (retriedBy submit).ascend ".aspx.cs" retry = ⟨[retry], retry, true⟩ := by
  have choice :
      chooseCaller? ".aspx.cs" retry ((retriedBy submit).callersOf retry.name) = some retry :=
    (chooseCaller?_eq_some_iff ..).mpr (by decide)
  exact ⟨by decide, choice, Ascends.ascend_eq (.up (by decide) choice (.again (by decide)))⟩

end CallOrigin.CallerGraph
