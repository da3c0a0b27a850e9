import CallOrigin.Proofs.Ascent

/-! # Outermost methods

A method is outermost if nothing calls it, or if the methods above it lead back to it. A way up
ends at the first outermost method that it comes to, wherever it starts. So a second way up, from
the end of a first one, stays where it is. And a way up that leaves its start for good ends where
the way up from the next method ends, although that one begins with nothing passed.
-/

namespace CallOrigin.CallerGraph

/-- The methods above a method lead back to it. -/
def OnCycle (g : CallerGraph) (codeBehind : String) (m : Method) : Prop :=
  ∃ k > 0, g.climb codeBehind m k = some m

def Outermost (g : CallerGraph) (codeBehind : String) (m : Method) : Prop :=
  g.callersOf m.name = [] ∨ g.OnCycle codeBehind m

/-- From a method up to the first outermost one. -/
inductive LeadsTo (g : CallerGraph) (codeBehind : String) : (start top : Method) → Prop where
  | here {m} :
    g.Outermost codeBehind m → LeadsTo g codeBehind m m
  | up {m above top} :
    ¬ g.Outermost codeBehind m →
    g.next? codeBehind m = some above →
    LeadsTo g codeBehind above top →
    LeadsTo g codeBehind m top

variable {g : CallerGraph} {codeBehind : String}

namespace LeadsTo

variable {start top : Method}

theorem outermost (leads : LeadsTo g codeBehind start top) : g.Outermost codeBehind top := by
  induction leads with
  | here isOutermost => exact isOutermost
  | up _ _ _ ih => exact ih

theorem unique {top' : Method} (leads : LeadsTo g codeBehind start top)
    (leads' : LeadsTo g codeBehind start top') : top = top' := by
  induction leads with
  | here isOutermost =>
      cases leads' with
      | here => rfl
      | up inner => exact absurd isOutermost inner
  | up inner next _ ih =>
      cases leads' with
      | here isOutermost => exact absurd isOutermost inner
      | up _ next' leads' =>
          cases next.symm.trans next'
          exact ih leads'

end LeadsTo

/-! ## The way up ends at the first outermost method -/

theorem not_outermost_of_next? {m above : Method} (next : g.next? codeBehind m = some above)
    (leaves : ¬ g.OnCycle codeBehind m) : ¬ g.Outermost codeBehind m := by
  rintro (uncalled | returns)
  · exact called_of_next? next uncalled
  · exact leaves returns

theorem leadsTo_of_climb {start top : Method} {n : Nat}
    (reached : g.climb codeBehind start n = some top) (isOutermost : g.Outermost codeBehind top)
    (first : ∀ i < n, ∀ m, g.climb codeBehind start i = some m → ¬ g.OnCycle codeBehind m) :
    LeadsTo g codeBehind start top := by
  induction n generalizing start with
  | zero =>
      cases reached
      exact .here isOutermost
  | succ n ih =>
      rw [climb_succ_left, Option.bind_eq_some_iff] at reached
      obtain ⟨above, next, reached⟩ := reached
      have leaves : ¬ g.OnCycle codeBehind start := first 0 (Nat.succ_pos n) start rfl
      refine .up (not_outermost_of_next? next leaves) next (ih reached ?_)
      intro i before m here
      refine first (i + 1) (Nat.succ_lt_succ before) m ?_
      rw [climb_succ_left, next, Option.bind_some, here]

/-- Below the end of a finite sequence nothing comes back. -/
theorem not_onCycle_of_finite {start m : Method} {i last : Nat}
    (ended : ∀ n, last < n → g.climb codeBehind start n = none)
    (here : g.climb codeBehind start i = some m) : ¬ g.OnCycle codeBehind m := by
  rintro ⟨k, steps, back⟩
  have past : last < i + (last + 1) * k := by
    have := Nat.le_mul_of_pos_right (last + 1) steps
    omega
  have reached := ended _ past
  rw [climb_add, here, Option.bind_some, climb_mul back] at reached
  cases reached

theorem leadsTo_ascend_top (g : CallerGraph) (codeBehind : String) (start : Method) :
    LeadsTo g codeBehind start (g.ascend codeBehind start).top := by
  have traced := traced_ascend g codeBehind start
  cases ends : (g.ascend codeBehind start).cyclic with
  | false =>
      obtain ⟨last, top, uncalled, ended, _⟩ := traced.finite ends
      exact leadsTo_of_climb top (.inl uncalled) fun _ _ _ here => not_onCycle_of_finite ended here
  | true =>
      obtain ⟨first, again, later, here, back, distinct, _⟩ := traced.cyclic ends
      have returns : g.OnCycle codeBehind (g.ascend codeBehind start).top :=
        ⟨again - first, by omega, climb_self_of_again later here back⟩
      refine leadsTo_of_climb here (.inr returns) ?_
      rintro i before m found ⟨k, steps, returned⟩
      exact climb_ne_of_before later (here.trans back.symm) distinct before found steps returned

theorem ascend_top_eq_iff {start top : Method} :
    (g.ascend codeBehind start).top = top ↔ LeadsTo g codeBehind start top := by
  constructor
  · rintro rfl
    exact leadsTo_ascend_top g codeBehind start
  · intro leads
    exact (leadsTo_ascend_top g codeBehind start).unique leads

/-! ## Ways up from the end and from the next method -/

theorem ascend_top_of_outermost {m : Method} (isOutermost : g.Outermost codeBehind m) :
    (g.ascend codeBehind m).top = m :=
  ascend_top_eq_iff.mpr (.here isOutermost)

theorem outermost_ascend_top (g : CallerGraph) (codeBehind : String) (start : Method) :
    g.Outermost codeBehind (g.ascend codeBehind start).top :=
  (leadsTo_ascend_top g codeBehind start).outermost

theorem ascend_top_of_next? {m above : Method} (next : g.next? codeBehind m = some above)
    (leaves : ¬ g.OnCycle codeBehind m) :
    (g.ascend codeBehind m).top = (g.ascend codeBehind above).top :=
  ascend_top_eq_iff.mpr
    (.up (not_outermost_of_next? next leaves) next (leadsTo_ascend_top g codeBehind above))

/-- The way up from the end of a way up ends there. If a method is called, one of its callers is
    chosen, and either the method is on a cycle and its own way up ends at itself, or it is not and
    its way up ends where that of the chosen caller ends. -/
theorem ascend_top_consistent (g : CallerGraph) (codeBehind : String) (s : Method) :
    (g.ascend codeBehind (g.ascend codeBehind s).top).top = (g.ascend codeBehind s).top ∧
    (g.callersOf s.name ≠ [] →
      ∃ t, chooseCaller? codeBehind s (g.callersOf s.name) = some t ∧
        ((g.OnCycle codeBehind s ∧ (g.ascend codeBehind s).top = s) ∨
          (¬ g.OnCycle codeBehind s ∧
            (g.ascend codeBehind s).top = (g.ascend codeBehind t).top))) := by
  refine ⟨ascend_top_of_outermost (outermost_ascend_top g codeBehind s), ?_⟩
  intro called
  obtain ⟨t, next⟩ := exists_chooseCaller? codeBehind s called
  refine ⟨t, next, ?_⟩
  by_cases returns : g.OnCycle codeBehind s
  · exact .inl ⟨returns, ascend_top_of_outermost (.inr returns)⟩
  · exact .inr ⟨returns, ascend_top_of_next? next returns⟩

private def poll : Method := ⟨"Poll", "a.cs"⟩

private def wait : Method := ⟨"Wait", "b.cs"⟩

private def wake : Method := ⟨"Wake", "c.cs"⟩

private def waiting : CallerGraph :=
  (empty.withEdges [⟨"Poll", wait⟩, ⟨"Wait", wake⟩, ⟨"Wake", wait⟩]).freeze

/-- From below a cycle and from within it, the way up ends where it enters the cycle. -/
theorem ascend_top_consistent_below_cycle :
    waiting.callersOf poll.name ≠ [] ∧
    chooseCaller? ".aspx.cs" poll (waiting.callersOf poll.name) = some wait ∧
    (waiting.ascend ".aspx.cs" wait).top = wait ∧
    (waiting.ascend ".aspx.cs" wake).top = wake ∧
    (waiting.ascend ".aspx.cs" poll).top = (waiting.ascend ".aspx.cs" wait).top := by
  have called : waiting.callersOf poll.name ≠ [] := by decide
  have fromPoll : chooseCaller? ".aspx.cs" poll (waiting.callersOf poll.name) = some wait :=
    (chooseCaller?_eq_some_iff ..).mpr (by decide)
  have fromWait : chooseCaller? ".aspx.cs" wait (waiting.callersOf wait.name) = some wake :=
    (chooseCaller?_eq_some_iff ..).mpr (by decide)
  have fromWake : chooseCaller? ".aspx.cs" wake (waiting.callersOf wake.name) = some wait :=
    (chooseCaller?_eq_some_iff ..).mpr (by decide)
  have wayOfPoll : waiting.ascend ".aspx.cs" poll = ⟨[poll, wait, wake], wait, true⟩ :=
    Ascends.ascend_eq (.up (by decide) fromPoll (.up (by decide) fromWait
      (.up (by decide) fromWake (.again (by decide)))))
  have wayOfWait : waiting.ascend ".aspx.cs" wait = ⟨[wait, wake], wait, true⟩ :=
    Ascends.ascend_eq (.up (by decide) fromWait (.up (by decide) fromWake (.again (by decide))))
  have wayOfWake : waiting.ascend ".aspx.cs" wake = ⟨[wake, wait], wake, true⟩ :=
    Ascends.ascend_eq (.up (by decide) fromWake (.up (by decide) fromWait (.again (by decide))))
  refine ⟨called, fromPoll, by rw [wayOfWait], by rw [wayOfWake], ?_⟩
  obtain ⟨t, choice, returns | leaves⟩ :=
    (ascend_top_consistent waiting ".aspx.cs" poll).2 called
  · rw [wayOfPoll] at returns
    exact absurd returns.2 (by decide)
  · cases fromPoll.symm.trans choice
    exact leaves.2

end CallOrigin.CallerGraph
