import CallOrigin.Calls.ApiCall
import Mathlib.Data.List.Nodup

/-! # Sorting

Sorting by a total order forgets the order of what is sorted. Sorting by a total preorder forgets
all of it but the order among items of equal rank: two lists that agree on that, rank by rank, have
one sorting.
-/

namespace CallOrigin

/-! ## Orders by a first key -/

/-- The order by a text key, and by another order where the keys are equal. -/
def keyedOrder {α : Type} (key : α → String) (next : α → α → Bool) (a b : α) : Bool :=
  key a < key b || (key a == key b && next a b)

section
variable {α : Type} {key : α → String} {next : α → α → Bool}

theorem keyedOrder_iff (a b : α) :
    keyedOrder key next a b ↔ key a < key b ∨ (key a = key b ∧ next a b) := by
  simp [keyedOrder]

theorem keyedOrder_trans (next_trans : ∀ a b c, next a b → next b c → next a c) (a b c : α)
    (first : keyedOrder key next a b) (second : keyedOrder key next b c) :
    keyedOrder key next a c := by
  rw [keyedOrder_iff] at first second ⊢
  rcases first with first | ⟨same, first⟩
  · rcases second with second | ⟨same', _⟩
    · exact .inl (String.lt_trans first second)
    · exact .inl (same' ▸ first)
  · rcases second with second | ⟨same', second⟩
    · exact .inl (same ▸ second)
    · exact .inr ⟨same.trans same', next_trans a b c first second⟩

theorem keyedOrder_total (next_total : ∀ a b, next a b || next b a) (a b : α) :
    keyedOrder key next a b || keyedOrder key next b a := by
  rw [Bool.or_eq_true, keyedOrder_iff, keyedOrder_iff]
  by_cases below : key a < key b
  · exact .inl (.inl below)
  by_cases above : key b < key a
  · exact .inr (.inl above)
  have same : key a = key b := String.le_antisymm above below
  rcases (Bool.or_eq_true _ _).mp (next_total a b) with first | second
  · exact .inl (.inr ⟨same, first⟩)
  · exact .inr (.inr ⟨same.symm, second⟩)

theorem keyedOrder_both {a b : α} (first : keyedOrder key next a b)
    (second : keyedOrder key next b a) : key a = key b ∧ next a b ∧ next b a := by
  rw [keyedOrder_iff] at first second
  rcases first with first | ⟨same, first⟩
  · rcases second with second | ⟨same, _⟩
    · exact absurd second (String.lt_asymm first)
    · exact absurd first (same ▸ String.lt_irrefl _)
  · rcases second with second | ⟨_, second⟩
    · exact absurd second (same ▸ String.lt_irrefl _)
    · exact ⟨same, first, second⟩

/-- The order by two text keys. -/
def textOrder (first second : α → String) : α → α → Bool :=
  keyedOrder first fun a b => second a ≤ second b

theorem textOrder_trans {first second : α → String} (a b c : α) (ab : textOrder first second a b)
    (bc : textOrder first second b c) : textOrder first second a c := by
  refine keyedOrder_trans ?_ a b c ab bc
  intro a b c ab bc
  simp only [decide_eq_true_eq] at *
  exact String.le_trans ab bc

theorem textOrder_total {first second : α → String} (a b : α) :
    textOrder first second a b || textOrder first second b a := by
  refine keyedOrder_total ?_ a b
  intro a b
  simpa using String.le_total (second a) (second b)

theorem textOrder_both {first second : α → String} {a b : α} (ab : textOrder first second a b)
    (ba : textOrder first second b a) : first a = first b ∧ second a = second b := by
  obtain ⟨same, below, above⟩ := keyedOrder_both ab ba
  simp only [decide_eq_true_eq] at below above
  exact ⟨same, String.le_antisymm below above⟩

end

attribute [ext] Method

namespace Method

theorem fileOrder_eq : fileOrder = textOrder (·.file) (·.name) := rfl

theorem fileOrder_trans (a b c : Method) (first : fileOrder a b) (second : fileOrder b c) :
    fileOrder a c := by
  rw [fileOrder_eq] at *
  exact textOrder_trans a b c first second

theorem fileOrder_total (a b : Method) : fileOrder a b || fileOrder b a := by
  rw [fileOrder_eq]
  exact textOrder_total a b

end Method

namespace ApiCall

theorem placeOrder_eq : placeOrder = keyedOrder (·.file) fun a b =>
    a.line < b.line || (a.line == b.line && a.col ≤ b.col) := rfl

theorem placeOrder_trans (a b c : ApiCall) (first : placeOrder a b) (second : placeOrder b c) :
    placeOrder a c := by
  rw [placeOrder_eq] at *
  refine keyedOrder_trans ?_ a b c first second
  intro a b c first second
  simp only [Bool.or_eq_true, Bool.and_eq_true, decide_eq_true_eq, beq_iff_eq] at *
  omega

theorem placeOrder_total (a b : ApiCall) : placeOrder a b || placeOrder b a := by
  rw [placeOrder_eq]
  refine keyedOrder_total ?_ a b
  intro a b
  simp only [Bool.or_eq_true, Bool.and_eq_true, decide_eq_true_eq, beq_iff_eq]
  omega

end ApiCall

/-! ## What a sorting depends on -/

/-- Sorting by a total order forgets the order of what is sorted. -/
theorem mergeSort_eq_of_perm {α : Type} {le : α → α → Bool}
    (trans : ∀ a b c, le a b → le b c → le a c) (total : ∀ a b, le a b || le b a)
    (antisymm : ∀ a b, le a b → le b a → a = b) {xs ys : List α} (same : xs.Perm ys) :
    xs.mergeSort le = ys.mergeSort le := by
  have sortedPerm : (xs.mergeSort le).Perm (ys.mergeSort le) :=
    (List.mergeSort_perm xs le).trans (same.trans (List.mergeSort_perm ys le).symm)
  exact sortedPerm.eq_of_pairwise (fun a b _ _ => antisymm a b)
    (List.pairwise_mergeSort trans total xs) (List.pairwise_mergeSort trans total ys)

section
variable {α : Type} {le : α → α → Bool}

/-- Whether two items have the same rank. -/
def sameRank (le : α → α → Bool) (a b : α) : Bool := le a b && le b a

theorem filter_sameRank_mergeSort (trans : ∀ a b c, le a b → le b c → le a c)
    (total : ∀ a b, le a b || le b a) (xs : List α) (a : α) :
    (xs.mergeSort le).filter (sameRank le a) = xs.filter (sameRank le a) := by
  have ranked : (xs.filter (sameRank le a)).Pairwise (le · ·) := by
    rw [List.pairwise_filter]
    refine List.pairwise_of_forall ?_
    intro b c first second
    have ⟨_, above⟩ := (Bool.and_eq_true _ _).mp first
    have ⟨below, _⟩ := (Bool.and_eq_true _ _).mp second
    exact trans b a c above below
  have kept : (xs.filter (sameRank le a)).Sublist (xs.mergeSort le) :=
    List.sublist_mergeSort trans total ranked List.filter_sublist
  have keptRank := kept.filter (sameRank le a)
  rw [List.filter_filter] at keptRank
  simp only [Bool.and_self] at keptRank
  exact (keptRank.eq_of_length ((List.mergeSort_perm xs le).filter _).length_eq.symm).symm

/-- A sorted list is known by its items of each rank, in order. -/
theorem eq_of_filter_sameRank (total : ∀ a b, le a b || le b a) :
    ∀ {xs ys : List α}, xs.Pairwise (le · ·) → ys.Pairwise (le · ·) →
      (∀ a, xs.filter (sameRank le a) = ys.filter (sameRank le a)) → xs = ys := by
  have refl : ∀ a, le a a := by
    intro a
    simpa using total a a
  have rankSelf : ∀ a, sameRank le a a := by
    intro a
    simp [sameRank, refl a]
  intro xs
  induction xs with
  | nil =>
      intro ys _ _ agree
      cases ys with
      | nil => rfl
      | cons y ys =>
          have impossible := agree y
          simp [rankSelf y] at impossible
  | cons x xs ih =>
      intro ys sortedX sortedY agree
      cases ys with
      | nil =>
          have impossible := agree x
          simp [rankSelf x] at impossible
      | cons y ys =>
          have xInside : x ∈ y :: ys :=
            (List.mem_filter.mp (agree x ▸ by simp [rankSelf x] :
              x ∈ (y :: ys).filter (sameRank le x))).1
          have yInside : y ∈ x :: xs :=
            (List.mem_filter.mp (agree y ▸ by simp [rankSelf y] :
              y ∈ (x :: xs).filter (sameRank le y))).1
          have xFirst : le x y := by
            rcases List.mem_cons.mp yInside with rfl | later
            · exact refl _
            · exact List.rel_of_pairwise_cons sortedX later
          have yFirst : le y x := by
            rcases List.mem_cons.mp xInside with rfl | later
            · exact refl _
            · exact List.rel_of_pairwise_cons sortedY later
          have headRank : sameRank le x y := by
            simp [sameRank, xFirst, yFirst]
          -- The first items of one rank are the heads of what is left of that rank.
          have heads := agree x
          rw [List.filter_cons_of_pos (rankSelf x), List.filter_cons_of_pos headRank] at heads
          have sameHead : x = y := (List.cons.inj heads).1
          subst sameHead
          refine congrArg _ (ih sortedX.of_cons sortedY.of_cons ?_)
          intro a
          have tails := agree a
          by_cases rank : sameRank le a x
          · rw [List.filter_cons_of_pos rank, List.filter_cons_of_pos rank] at tails
            exact (List.cons.inj tails).2
          · rw [List.filter_cons_of_neg rank, List.filter_cons_of_neg rank] at tails
            exact tails

/-- Lists that agree rank by rank have one sorting. -/
theorem mergeSort_eq_of_filter_sameRank (trans : ∀ a b c, le a b → le b c → le a c)
    (total : ∀ a b, le a b || le b a) {xs ys : List α}
    (agree : ∀ a, xs.filter (sameRank le a) = ys.filter (sameRank le a)) :
    xs.mergeSort le = ys.mergeSort le := by
  refine eq_of_filter_sameRank total (List.pairwise_mergeSort trans total xs)
    (List.pairwise_mergeSort trans total ys) ?_
  intro a
  rw [filter_sameRank_mergeSort trans total, filter_sameRank_mergeSort trans total, agree]

/-- What is kept of a list can be sorted before or after. -/
theorem filter_mergeSort (trans : ∀ a b c, le a b → le b c → le a c)
    (total : ∀ a b, le a b || le b a) (keep : α → Bool) (xs : List α) :
    (xs.mergeSort le).filter keep = (xs.filter keep).mergeSort le := by
  refine eq_of_filter_sameRank total ((List.pairwise_mergeSort trans total xs).filter _)
    (List.pairwise_mergeSort trans total _) ?_
  intro a
  rw [filter_sameRank_mergeSort trans total, List.filter_filter, List.filter_filter]
  simp only [Bool.and_comm]
  rw [← List.filter_filter, filter_sameRank_mergeSort trans total, List.filter_filter]

end

/-! ## Names in order -/

theorem nodup_eraseDups (names : List String) : names.eraseDups.Nodup := by
  cases names with
  | nil => simp
  | cons name rest =>
      rw [List.eraseDups_cons, List.nodup_cons]
      constructor
      · simp [List.mem_eraseDups]
      · exact nodup_eraseDups _
termination_by names.length
decreasing_by
  rw [List.length_cons, Nat.lt_succ_iff]
  exact List.length_filter_le _ rest

/-- Names of which none is repeated increase strictly once they are sorted. -/
theorem mergeSort_increasing {names : List String} (unique : names.Nodup) :
    names.mergeSort.Pairwise (· < ·) := by
  have ordered : names.mergeSort.Pairwise (· ≤ ·) := by
    have sorted : names.mergeSort.Pairwise fun a b => decide (a ≤ b) = true := by
      refine List.pairwise_mergeSort ?_ ?_ _
      · intro a b c
        simpa using String.le_trans
      · intro a b
        simpa using String.le_total a b
    exact sorted.imp of_decide_eq_true
  have different : names.mergeSort.Nodup := (List.mergeSort_perm _ _).nodup_iff.mpr unique
  refine (ordered.and different).imp ?_
  rintro a b ⟨below, different⟩
  by_contra above
  exact different (String.le_antisymm below above)

/-- Names that increase strictly are known from which they are. -/
theorem eq_of_increasing {names others : List String} (increasing : names.Pairwise (· < ·))
    (increasing' : others.Pairwise (· < ·)) (same : ∀ name, name ∈ names ↔ name ∈ others) :
    names = others := by
  have unique : names.Nodup := increasing.imp String.ne_of_lt
  have unique' : others.Nodup := increasing'.imp String.ne_of_lt
  have perm := (List.perm_ext_iff_of_nodup unique unique').mpr same
  exact perm.eq_of_pairwise (fun a b _ _ below above => absurd below (String.lt_asymm above))
    increasing increasing'

end CallOrigin
