import CallOrigin.Proofs.Preference
import Mathlib.Data.Finset.Card
import Mathlib.Data.Finset.Insert
import Mathlib.Data.Finset.Dedup

/-! # The way up ends

From any method the methods above it form a sequence, which ends at a method that nothing calls or
goes on for ever. The way up is a loop over that sequence with the methods passed so far. It takes
one turn for each method it passes, and it passes no more of them than the start and the distinct
callers of the graph, so the bound that the loop is given is never reached. Where the sequence is
finite the way ends at its last method, and where it is not, at the first that comes up again.
-/

namespace CallOrigin.CallerGraph

variable (g : CallerGraph) (codeBehind : String)

/-! ## The sequence of methods above -/

/-- The method that is `n` steps above another one. -/
def climb (start : Method) : (n : Nat) → Option Method
  | 0 => some start
  | n + 1 => (climb start n).bind (g.next? codeBehind)

@[simp]
theorem climb_zero (start : Method) : g.climb codeBehind start 0 = some start := rfl

theorem climb_succ (start : Method) (n : Nat) :
    g.climb codeBehind start (n + 1) = (g.climb codeBehind start n).bind (g.next? codeBehind) := rfl

theorem climb_add (start : Method) (i k : Nat) :
    g.climb codeBehind start (i + k) =
      (g.climb codeBehind start i).bind (g.climb codeBehind · k) := by
  induction k with
  | zero => simp
  | succ k ih =>
      rw [← Nat.add_assoc, climb_succ, ih, Option.bind_assoc]
      rfl

theorem climb_succ_left (start : Method) (n : Nat) :
    g.climb codeBehind start (n + 1) =
      (g.next? codeBehind start).bind (g.climb codeBehind · n) := by
  rw [Nat.add_comm, climb_add]
  rfl

variable {g codeBehind}

theorem climb_add_congr {start : Method} {i j : Nat}
    (same : g.climb codeBehind start i = g.climb codeBehind start j) (k : Nat) :
    g.climb codeBehind start (i + k) = g.climb codeBehind start (j + k) := by
  rw [climb_add, climb_add, same]

/-! ## Coming back -/

/-- What comes back once comes back any number of times. -/
theorem climb_mul {m : Method} {k : Nat} (back : g.climb codeBehind m k = some m) (rounds : Nat) :
    g.climb codeBehind m (rounds * k) = some m := by
  induction rounds with
  | zero => rw [Nat.zero_mul, climb_zero]
  | succ rounds ih => rw [Nat.succ_mul, climb_add, ih, Option.bind_some, back]

section
variable {start : Method} {first again : Nat}

/-- Once a method comes up again, every later one is one of those in between. -/
theorem climb_in_cycle (later : first < again)
    (same : g.climb codeBehind start first = g.climb codeBehind start again) (n : Nat)
    (reached : first ≤ n) :
    ∃ j, first ≤ j ∧ j < again ∧ g.climb codeBehind start n = g.climb codeBehind start j := by
  induction n using Nat.strongRecOn with
  | ind n ih =>
      by_cases inside : n < again
      · exact ⟨n, reached, inside, rfl⟩
      · have back : g.climb codeBehind start n = g.climb codeBehind start (first + (n - again)) := by
          rw [climb_add_congr same, Nat.add_sub_cancel' (by omega)]
        rw [back]
        exact ih _ (by omega) (by omega)

theorem climb_isSome_of_again (later : first < again)
    (same : g.climb codeBehind start first = g.climb codeBehind start again)
    (known : ∀ i < again, (g.climb codeBehind start i).isSome) (n : Nat) :
    (g.climb codeBehind start n).isSome := by
  by_cases inside : n < again
  · exact known n inside
  · obtain ⟨j, _, before, equal⟩ := climb_in_cycle later same n (by omega)
    rw [equal]
    exact known j before

/-- What comes before the first method that comes up again is never come back to. -/
theorem climb_ne_of_before (later : first < again)
    (same : g.climb codeBehind start first = g.climb codeBehind start again)
    (distinct : ∀ i j, i < j → j < again →
      g.climb codeBehind start i ≠ g.climb codeBehind start j)
    {i : Nat} (before : i < first) {m : Method} (here : g.climb codeBehind start i = some m)
    {k : Nat} (steps : 0 < k) : g.climb codeBehind m k ≠ some m := by
  intro back
  have repeated : ∀ rounds, g.climb codeBehind start i =
      g.climb codeBehind start (i + rounds * k) := by
    intro rounds
    rw [climb_add, here, Option.bind_some, climb_mul back]
  -- Enough rounds lead past `first`, to what is between it and `again`.
  have past : first ≤ i + first * k := by
    have := Nat.le_mul_of_pos_right first steps
    omega
  obtain ⟨j, notBefore, inside, equal⟩ := climb_in_cycle later same _ past
  exact distinct i j (by omega) inside ((repeated first).trans equal)

end

/-! ## The loop -/

/-- The way up as a loop. From `current`, with `passed` behind, last first, it ends after the given
    number of turns. -/
inductive Ascends (g : CallerGraph) (codeBehind : String) :
    (passed : List Method) → (current : Method) → (turns : Nat) → (way : Ascent) → Prop where
  | again {passed current} :
    current ∈ passed → Ascends g codeBehind passed current 0 ⟨passed.reverse, current, true⟩
  | outermost {passed current} :
    current ∉ passed →
    g.callersOf current.name = [] →
    Ascends g codeBehind passed current 1 ⟨(current :: passed).reverse, current, false⟩
  | up {passed current above turns way} :
    current ∉ passed →
    chooseCaller? codeBehind current (g.callersOf current.name) = some above →
    Ascends g codeBehind (current :: passed) above turns way →
    Ascends g codeBehind passed current (turns + 1) way

theorem Ascends.unique {passed : List Method} {current : Method} {turns turns' : Nat}
    {way way' : Ascent} (ends : Ascends g codeBehind passed current turns way)
    (ends' : Ascends g codeBehind passed current turns' way') : way = way' := by
  induction ends generalizing turns' with
  | again seen =>
      cases ends' with
      | again => rfl
      | outermost fresh | up fresh => exact absurd seen fresh
  | outermost fresh uncalled =>
      cases ends' with
      | again seen => exact absurd seen fresh
      | outermost => rfl
      | up _ next => exact absurd uncalled (called_of_next? next)
  | up fresh next _ ih =>
      cases ends' with
      | again seen => exact absurd seen fresh
      | outermost _ uncalled => exact absurd uncalled (called_of_next? next)
      | up _ next' ends' =>
          cases next.symm.trans next'
          exact ih ends'

/-- The methods that a way up can pass: its start and the callers of the graph. -/
def passable (g : CallerGraph) (start : Method) : Finset Method :=
  insert start (g.edges.map (·.caller)).toFinset

theorem next?_mem_passable {m above : Method} (next : g.next? codeBehind m = some above)
    (start : Method) : above ∈ g.passable start := by
  rw [passable, Finset.mem_insert, List.mem_toFinset, List.mem_map]
  exact .inr ⟨_, edge_of_next? next, rfl⟩

theorem card_passable_le (g : CallerGraph) (start : Method) :
    (g.passable start).card ≤ 1 + (g.edges.map (·.caller)).toFinset.card := by
  rw [passable, Nat.add_comm]
  exact Finset.card_insert_le _ _

theorem length_le_card_passable {start : Method} {passed : List Method} (unique : passed.Nodup)
    (inside : ∀ m ∈ passed, m ∈ g.passable start) : passed.length ≤ (g.passable start).card := by
  rw [← List.toFinset_card_of_nodup unique]
  refine Finset.card_le_card ?_
  intro m member
  exact inside m (List.mem_toFinset.mp member)

/-- With more turns to spare than there are methods left to pass, the loop ends by itself. -/
theorem ascends_ascendFrom (g : CallerGraph) (codeBehind : String) (start : Method) (fuel : Nat)
    {passed : List Method} {current : Method} (unique : passed.Nodup)
    (inside : ∀ m ∈ passed, m ∈ g.passable start)
    (here : current ∈ g.passable start) (enough : (g.passable start).card < fuel + passed.length) :
    ∃ turns, turns + passed.length ≤ (g.passable start).card ∧
      Ascends g codeBehind passed current turns (g.ascendFrom codeBehind fuel passed current) := by
  induction fuel generalizing passed current with
  | zero =>
      have bounded := length_le_card_passable unique inside
      omega
  | succ fuel ih =>
      rw [ascendFrom]
      by_cases seen : current ∈ passed
      · rw [if_pos (by simpa using seen)]
        refine ⟨0, ?_, .again seen⟩
        have bounded := length_le_card_passable unique inside
        omega
      · rw [if_neg (by simpa using seen)]
        have uniqueNow : (current :: passed).Nodup := List.nodup_cons.mpr ⟨seen, unique⟩
        have insideNow : ∀ m ∈ current :: passed, m ∈ g.passable start := by
          intro m member
          rcases List.mem_cons.mp member with rfl | member
          · exact here
          · exact inside m member
        cases next : g.next? codeBehind current with
        | none =>
            refine ⟨1, ?_, .outermost seen ((next?_eq_none_iff ..).mp next)⟩
            have bounded := length_le_card_passable uniqueNow insideNow
            rw [List.length_cons] at bounded
            omega
        | some above =>
            obtain ⟨turns, bounded, ends⟩ := ih uniqueNow insideNow
              (next?_mem_passable next start) (by rw [List.length_cons]; omega)
            rw [List.length_cons] at bounded
            exact ⟨turns + 1, by omega, .up seen next ends⟩

/-- The way up is the loop run to its end, in at most one turn for the start and for each caller. -/
theorem ascends_ascend (g : CallerGraph) (codeBehind : String) (start : Method) :
    ∃ turns ≤ 1 + (g.edges.map (·.caller)).toFinset.card,
      Ascends g codeBehind [] start turns (g.ascend codeBehind start) := by
  have callersBound : (g.edges.map (·.caller)).toFinset.card ≤ g.edgeCount := by
    refine (List.toFinset_card_le _).trans ?_
    rw [List.length_map, length_edges]
  have bound := card_passable_le g start
  obtain ⟨turns, few, ends⟩ := ascends_ascendFrom g codeBehind start (g.edgeCount + 2)
    List.nodup_nil (by simp) (Finset.mem_insert_self start _) (by rw [List.length_nil]; omega)
  exact ⟨turns, by rw [List.length_nil] at few; omega, ends⟩

/-- A loop that has ended is the way up. -/
theorem Ascends.ascend_eq {start : Method} {turns : Nat} {way : Ascent}
    (ends : Ascends g codeBehind [] start turns way) : g.ascend codeBehind start = way := by
  obtain ⟨_, _, ends'⟩ := ascends_ascend g codeBehind start
  exact ends'.unique ends

theorem Alike.ascendFrom_eq {g h : CallerGraph} (alike : g.Alike h) (codeBehind : String)
    (fuel : Nat) (passed : List Method) (current : Method) :
    g.ascendFrom codeBehind fuel passed current = h.ascendFrom codeBehind fuel passed current := by
  induction fuel generalizing passed current with
  | zero => rfl
  | succ fuel ih => simp only [ascendFrom, alike.next?_eq, ih]

theorem Alike.ascend_eq {g h : CallerGraph} (alike : g.Alike h) (codeBehind : String)
    (start : Method) : g.ascend codeBehind start = h.ascend codeBehind start := by
  rw [ascend, ascend, alike.edgeCount_eq]
  exact alike.ascendFrom_eq ..

/-! ## Where the loop ends -/

/-- A loop under way from `start`: what is passed are the methods above `start`, each of them once,
    and `current` is the next of them. -/
structure Trail (g : CallerGraph) (codeBehind : String) (start : Method) (passed : List Method)
    (current : Method) : Prop where
  unique : passed.Nodup
  steps : ∀ i < passed.length, g.climb codeBehind start i = passed.reverse[i]?
  here : g.climb codeBehind start passed.length = some current

/-- A loop that has ended: what was passed are the methods above `start`, each of them once, and
    the top is the next of them and was passed, or is the last and has no caller. -/
structure Traced (g : CallerGraph) (codeBehind : String) (start : Method) (way : Ascent) :
    Prop where
  unique : way.passed.Nodup
  steps : ∀ i < way.passed.length, g.climb codeBehind start i = way.passed[i]?
  ends :
    (way.cyclic = true ∧ way.top ∈ way.passed ∧
      g.climb codeBehind start way.passed.length = some way.top) ∨
    (way.cyclic = false ∧ g.callersOf way.top.name = [] ∧ way.passed.getLast? = some way.top)

namespace Trail

variable {start current : Method} {passed : List Method}

theorem initial (start : Method) : Trail g codeBehind start [] start where
  unique := List.nodup_nil
  steps := by simp
  here := rfl

theorem steps_cons (trail : Trail g codeBehind start passed current) :
    ∀ i < (current :: passed).length,
      g.climb codeBehind start i = (current :: passed).reverse[i]? := by
  intro i inside
  rw [List.length_cons, Nat.lt_succ_iff_lt_or_eq] at inside
  rw [List.reverse_cons]
  rcases inside with inside | rfl
  · rw [List.getElem?_append_left (by simpa using inside), trail.steps i inside]
  · rw [trail.here, List.getElem?_append_right (by simp)]
    simp

theorem up {above : Method} (trail : Trail g codeBehind start passed current)
    (fresh : current ∉ passed) (next : g.next? codeBehind current = some above) :
    Trail g codeBehind start (current :: passed) above where
  unique := List.nodup_cons.mpr ⟨fresh, trail.unique⟩
  steps := trail.steps_cons
  here := by rw [List.length_cons, climb_succ, trail.here, Option.bind_some, next]

end Trail

theorem Ascends.traced {start current : Method} {passed : List Method} {turns : Nat} {way : Ascent}
    (ends : Ascends g codeBehind passed current turns way)
    (trail : Trail g codeBehind start passed current) : Traced g codeBehind start way := by
  induction ends with
  | again seen =>
      refine ⟨List.nodup_reverse.mpr trail.unique, ?_, .inl ⟨rfl, List.mem_reverse.mpr seen, ?_⟩⟩
      · intro i inside
        exact trail.steps i (by simpa using inside)
      · rw [List.length_reverse, trail.here]
  | outermost fresh uncalled =>
      refine ⟨List.nodup_reverse.mpr (List.nodup_cons.mpr ⟨fresh, trail.unique⟩), ?_,
        .inr ⟨rfl, uncalled, by simp⟩⟩
      intro i inside
      exact trail.steps_cons i (by simpa using inside)
  | up fresh next _ ih => exact ih (trail.up fresh next)

theorem traced_ascend (g : CallerGraph) (codeBehind : String) (start : Method) :
    Traced g codeBehind start (g.ascend codeBehind start) := by
  obtain ⟨_, _, ends⟩ := ascends_ascend g codeBehind start
  exact ends.traced (Trail.initial start)

namespace Traced

variable {start : Method} {way : Ascent} (traced : Traced g codeBehind start way)
include traced

theorem distinct {i j : Nat} (before : i < j) (inside : j < way.passed.length) :
    g.climb codeBehind start i ≠ g.climb codeBehind start j := by
  intro same
  rw [traced.steps i (by omega), traced.steps j inside] at same
  have := (List.getElem?_inj (by omega) traced.unique).mp same
  omega

theorem climb_isSome {i : Nat} (inside : i < way.passed.length) :
    (g.climb codeBehind start i).isSome := by
  rw [traced.steps i inside, List.getElem?_eq_getElem inside]
  rfl

/-- A way that ends at a method without callers has gone to the end of the sequence. -/
theorem finite (ends : way.cyclic = false) :
    ∃ last, g.climb codeBehind start last = some way.top ∧ g.callersOf way.top.name = [] ∧
      (∀ n, last < n → g.climb codeBehind start n = none) ∧
      ∀ i j, i < j → j ≤ last → g.climb codeBehind start i ≠ g.climb codeBehind start j := by
  obtain ⟨_, uncalled, atLast⟩ : _ ∧ _ ∧ _ := traced.ends.resolve_left (by simp [ends])
  have nonempty : 0 < way.passed.length := List.length_pos_of_mem (List.mem_of_getLast? atLast)
  have top : g.climb codeBehind start (way.passed.length - 1) = some way.top := by
    rw [traced.steps _ (by omega), ← List.getLast?_eq_getElem?, atLast]
  refine ⟨way.passed.length - 1, top, uncalled, ?_, ?_⟩
  · intro n later
    obtain ⟨k, rfl⟩ : ∃ k, n = way.passed.length - 1 + 1 + k := ⟨n - way.passed.length, by omega⟩
    rw [climb_add, climb_succ, top, Option.bind_some, (next?_eq_none_iff ..).mpr uncalled]
    rfl
  · intro i j before inside
    exact traced.distinct before (by omega)

/-- A way that ends at a method passed before ends at the first that comes up again. -/
theorem cyclic (ends : way.cyclic = true) :
    ∃ first again, first < again ∧ g.climb codeBehind start first = some way.top ∧
      g.climb codeBehind start again = some way.top ∧
      (∀ i j, i < j → j < again → g.climb codeBehind start i ≠ g.climb codeBehind start j) ∧
      ∀ i < again, (g.climb codeBehind start i).isSome := by
  obtain ⟨_, passed, back⟩ : _ ∧ _ ∧ _ := traced.ends.resolve_right (by simp [ends])
  obtain ⟨first, inside, found⟩ := List.getElem_of_mem passed
  refine ⟨first, way.passed.length, inside, ?_, back, fun i j => traced.distinct,
    fun i => traced.climb_isSome⟩
  rw [traced.steps first inside, List.getElem?_eq_getElem inside, found]

end Traced

theorem climb_self_of_again {start m : Method} {first again : Nat} (later : first < again)
    (here : g.climb codeBehind start first = some m)
    (back : g.climb codeBehind start again = some m) :
    g.climb codeBehind m (again - first) = some m := by
  have steps := climb_add g codeBehind start first (again - first)
  rw [Nat.add_sub_cancel' (Nat.le_of_lt later), here, back, Option.bind_some] at steps
  exact steps.symm

/-- The way up leads through the sequence to a method that nothing calls or that it comes back to. -/
theorem climb_to_top (g : CallerGraph) (codeBehind : String) (start : Method) :
    ∃ n, g.climb codeBehind start n = some (g.ascend codeBehind start).top ∧
      (g.callersOf (g.ascend codeBehind start).top.name = [] ∨
        ∃ k > 0, g.climb codeBehind (g.ascend codeBehind start).top k =
          some (g.ascend codeBehind start).top) := by
  have traced := traced_ascend g codeBehind start
  cases ends : (g.ascend codeBehind start).cyclic with
  | false =>
      obtain ⟨last, top, uncalled, _⟩ := traced.finite ends
      exact ⟨last, top, .inl uncalled⟩
  | true =>
      obtain ⟨first, again, later, here, back, _⟩ := traced.cyclic ends
      exact ⟨first, here, .inr ⟨again - first, by omega, climb_self_of_again later here back⟩⟩

/-- The sequence up to a method in it, as a chain of methods each of which is above the one
    before. -/
theorem chain_of_climb {start top : Method} {n : Nat}
    (reached : g.climb codeBehind start n = some top) :
    ∃ chain : Nat → Method, chain 0 = start ∧ chain n = top ∧
      ∀ i < n, g.next? codeBehind (chain i) = some (chain (i + 1)) := by
  induction n generalizing top with
  | zero => exact ⟨fun _ => start, rfl, Option.some.inj reached, by simp⟩
  | succ n ih =>
      rw [climb_succ, Option.bind_eq_some_iff] at reached
      obtain ⟨below, reached, next⟩ := reached
      obtain ⟨chain, first, last, links⟩ := ih reached
      refine ⟨fun i => if i ≤ n then chain i else top, by simp [first], by simp, ?_⟩
      intro i inside
      rw [Nat.lt_succ_iff_lt_or_eq] at inside
      rcases inside with inside | rfl
      · simpa [Nat.le_of_lt inside, Nat.succ_le_of_lt inside] using links i inside
      · change g.next? codeBehind (if i ≤ i then chain i else top) =
          some (if i + 1 ≤ i then chain (i + 1) else top)
        rw [if_pos (Nat.le_refl i), if_neg (Nat.not_succ_le_self i), last, next]

/-- The way up is characterised by the sequence of methods above its start, and ends within one
    turn for the start and one for each distinct caller. If the sequence is finite, the way ends at
    its last method, which nothing calls. Otherwise it ends at the first method of the sequence
    that comes up a second time, which is on the cycle, while nothing before it is. -/
theorem ascend_characterised (g : CallerGraph) (codeBehind : String) (start : Method) :
    let way := g.ascend codeBehind start
    let above := g.climb codeBehind start
    (∀ m, g.next? codeBehind m = none ↔ g.callersOf m.name = []) ∧
    (∃ turns ≤ 1 + (g.edges.map (·.caller)).toFinset.card,
      Ascends g codeBehind [] start turns way) ∧
    ((way.cyclic = false ∧ ∃ last, above last = some way.top ∧ g.callersOf way.top.name = [] ∧
        (∀ n, last < n → above n = none) ∧ ∀ i j, i < j → j ≤ last → above i ≠ above j) ∨
      (way.cyclic = true ∧ (∀ n, (above n).isSome) ∧ ∃ first again, first < again ∧
        above first = some way.top ∧ above again = some way.top ∧
        (∀ i j, i < j → j < again → above i ≠ above j) ∧
        (∃ k > 0, g.climb codeBehind way.top k = some way.top) ∧
        ∀ i < first, ∀ m, above i = some m → ∀ k > 0, g.climb codeBehind m k ≠ some m)) := by
  intro way above
  have traced := traced_ascend g codeBehind start
  refine ⟨next?_eq_none_iff g codeBehind, ascends_ascend g codeBehind start, ?_⟩
  cases ends : way.cyclic with
  | false => exact .inl ⟨rfl, traced.finite ends⟩
  | true =>
      obtain ⟨first, again, later, here, back, distinct, known⟩ := traced.cyclic ends
      have same := here.trans back.symm
      refine .inr ⟨rfl, climb_isSome_of_again later same known, first, again, later, here, back,
        distinct, ⟨again - first, by omega, climb_self_of_again later here back⟩, ?_⟩
      intro i before m found k steps
      exact climb_ne_of_before later same distinct before found steps

end CallOrigin.CallerGraph
