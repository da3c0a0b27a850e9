import CallOrigin.Proofs.CallerChoice
import Mathlib.Data.Bool.Basic
import Mathlib.Data.Prod.Lex
import Mathlib.Data.String.Basic

/-! # The order by which a caller is chosen

Seen from a method, every caller has a rank: whether it is in the method's own file, whether its
file is not a code-behind file, its file and its name. Ranks are compared in this order of
importance, and no two callers share one. The caller that is chosen is the one of least rank. So the
choice is known from the set of callers, and from any part of it that holds the chosen one.
-/

namespace CallOrigin

/-! ## Ranks -/

/-- The rank of a caller as seen from a method. What does not hold comes before what does, and
    texts go by their characters. -/
def callerRank (codeBehind : String) (current m : Method) : Bool ×ₗ Bool ×ₗ String ×ₗ String :=
  toLex (decide (m.file = current.file),
    toLex (decide (¬ (Text.lower codeBehind).toList <:+ (Text.lower m.file).toList),
      toLex (m.file, m.name)))

theorem endsLike_iff (text ending : String) :
    Text.endsLike text ending ↔ (Text.lower ending).toList <:+ (Text.lower text).toList :=
  List.isSuffixOf_iff_suffix

theorem Method.fileOrder_iff (a b : Method) :
    fileOrder a b ↔ toLex (a.file, a.name) ≤ toLex (b.file, b.name) := by
  simp [fileOrder, Prod.Lex.toLex_le_toLex]

theorem callerRank_le_iff (codeBehind : String) (current a b : Method) :
    callerRank codeBehind current a ≤ callerRank codeBehind current b ↔
      (a.file = current.file → b.file = current.file) ∧
      ((a.file = current.file ↔ b.file = current.file) →
        (Text.endsLike b.file codeBehind → Text.endsLike a.file codeBehind) ∧
        ((Text.endsLike a.file codeBehind ↔ Text.endsLike b.file codeBehind) →
          Method.fileOrder a b)) := by
  rw [callerRank, callerRank, Prod.Lex.toLex_le_toLex', Prod.Lex.toLex_le_toLex',
    endsLike_iff, endsLike_iff, Method.fileOrder_iff]
  simp only [Bool.le_iff_imp, decide_eq_true_eq, decide_eq_decide, not_imp_not, not_iff_not]

theorem callerRank_injective (codeBehind : String) (current : Method) :
    Function.Injective (callerRank codeBehind current) := by
  intro a b same
  have ⟨_, same⟩ := Prod.mk.inj (toLex.injective same)
  have ⟨_, same⟩ := Prod.mk.inj (toLex.injective same)
  have ⟨sameFile, sameName⟩ := Prod.mk.inj (toLex.injective same)
  exact Method.ext sameName sameFile

/-! ## The choice is the least -/

theorem candidates_sorted (current : Method) (callers : List Method) :
    (candidates current callers).Pairwise (Method.fileOrder · ·) :=
  List.pairwise_mergeSort Method.fileOrder_trans Method.fileOrder_total _

/-- The first of a sorted list with a property, or else the first of all, comes before every other
    that does not beat it by the property. -/
theorem le_of_find?_or_head? {α : Type} {le : α → α → Bool} {p : α → Bool} {xs : List α}
    (refl : ∀ a, le a a) (sorted : xs.Pairwise (le · ·)) {x : α}
    (found : (xs.find? p).or xs.head? = some x) {y : α} (inside : y ∈ xs) :
    (p y → p x) ∧ ((p x ↔ p y) → le x y) := by
  rcases Option.or_eq_some_iff.mp found with first | ⟨none, first⟩
  · obtain ⟨holds, before, after, rfl, failed⟩ := List.find?_eq_some_iff_append.mp first
    refine ⟨fun _ => holds, fun alike => ?_⟩
    have holdsToo : p y := alike.mp holds
    rcases List.mem_append.mp inside with earlier | later
    · have := failed y earlier
      simp [holdsToo] at this
    · rcases List.mem_cons.mp later with rfl | later
      · exact refl y
      · exact List.rel_of_pairwise_cons (List.pairwise_append.mp sorted).2.1 later
  · have fails : ¬ p y := List.find?_eq_none.mp none y inside
    refine ⟨fun holds => absurd holds fails, fun _ => ?_⟩
    obtain ⟨rest, rfl⟩ := List.head?_eq_some_iff.mp first
    rcases List.mem_cons.mp inside with rfl | later
    · exact refl y
    · exact List.rel_of_pairwise_cons sorted later

theorem callerRank_le_of_chooseCaller? {codeBehind : String} {current chosen : Method}
    {callers : List Method} (choice : chooseCaller? codeBehind current callers = some chosen)
    {m : Method} (inside : m ∈ callers) :
    callerRank codeBehind current chosen ≤ callerRank codeBehind current m := by
  obtain ⟨_, preferred⟩ := (mem_candidates_iff ..).mp (mem_candidates_of_chooseCaller? choice)
  rw [callerRank_le_iff]
  refine ⟨fun here => preferred here m inside, fun alike => ?_⟩
  -- A caller on the same side of the file's border as the chosen one is a candidate as well.
  have isCandidate : m ∈ candidates current callers :=
    (mem_candidates_iff ..).mpr ⟨inside, fun here => preferred (alike.mpr here)⟩
  refine le_of_find?_or_head? ?_ (candidates_sorted current callers) choice isCandidate
  intro a
  simpa using Method.fileOrder_total a a

/-- What is chosen is the caller of least rank. -/
theorem chooseCaller?_eq_some_iff (codeBehind : String) (current chosen : Method)
    (callers : List Method) :
    chooseCaller? codeBehind current callers = some chosen ↔
      chosen ∈ callers ∧
        ∀ m ∈ callers, callerRank codeBehind current chosen ≤ callerRank codeBehind current m := by
  constructor
  · intro choice
    exact ⟨mem_of_chooseCaller? choice, fun m => callerRank_le_of_chooseCaller? choice⟩
  · rintro ⟨inside, least⟩
    obtain ⟨other, choice⟩ := exists_chooseCaller? codeBehind current (List.ne_nil_of_mem inside)
    have notAbove := callerRank_le_of_chooseCaller? choice inside
    have notBelow := least other (mem_of_chooseCaller? choice)
    rw [choice, callerRank_injective codeBehind current (le_antisymm notAbove notBelow)]

/-! ## What the choice depends on -/

/-- The choice depends on the callers as a set. -/
theorem chooseCaller?_congr (codeBehind : String) (current : Method) {callers others : List Method}
    (same : ∀ m, m ∈ others ↔ m ∈ callers) :
    chooseCaller? codeBehind current others = chooseCaller? codeBehind current callers := by
  refine Option.ext fun chosen => ?_
  simp only [chooseCaller?_eq_some_iff, same]

theorem CallerGraph.Alike.next?_eq {g h : CallerGraph} (alike : g.Alike h) (codeBehind : String)
    (m : Method) : g.next? codeBehind m = h.next? codeBehind m :=
  chooseCaller?_congr codeBehind m fun _ => (alike.callersOf_perm m.name).mem_iff

/-- Callers that are not chosen can go without a change of the choice. -/
theorem chooseCaller?_of_subset {codeBehind : String} {current chosen : Method}
    {callers fewer : List Method} (choice : chooseCaller? codeBehind current callers = some chosen)
    (part : fewer ⊆ callers) (kept : chosen ∈ fewer) :
    chooseCaller? codeBehind current fewer = some chosen := by
  obtain ⟨_, least⟩ := (chooseCaller?_eq_some_iff ..).mp choice
  exact (chooseCaller?_eq_some_iff ..).mpr ⟨kept, fun m inside => least m (part inside)⟩

/-- Of any callers one is chosen, the only one of least rank. It is chosen as well from every list
    of the same callers, whatever their order and repetition, and from every part of them that it
    belongs to. -/
theorem chooseCaller?_least (codeBehind : String) (current : Method) {callers : List Method}
    (called : callers ≠ []) :
    ∃ chosen, chooseCaller? codeBehind current callers = some chosen ∧ chosen ∈ callers ∧
      (∀ m ∈ callers, m ≠ chosen →
        callerRank codeBehind current chosen < callerRank codeBehind current m) ∧
      (∀ others : List Method, (∀ m, m ∈ others ↔ m ∈ callers) →
        chooseCaller? codeBehind current others = some chosen) ∧
      ∀ fewer : List Method, fewer ⊆ callers → chosen ∈ fewer →
        chooseCaller? codeBehind current fewer = some chosen := by
  obtain ⟨chosen, choice⟩ := exists_chooseCaller? codeBehind current called
  obtain ⟨inside, least⟩ := (chooseCaller?_eq_some_iff ..).mp choice
  refine ⟨chosen, choice, inside, ?_, ?_, fun fewer => chooseCaller?_of_subset choice⟩
  · intro m member different
    refine lt_of_le_of_ne (least m member) ?_
    intro same
    exact different (callerRank_injective codeBehind current same).symm
  · intro others same
    rw [chooseCaller?_congr codeBehind current same, choice]

private def loader : Method := ⟨"Load", "Data.cs"⟩

private def loaderCallers : List Method :=
  [loader, ⟨"Bind", "Data.cs"⟩, ⟨"Run", "Batch.cs"⟩, ⟨"Open", "Edit.ASPX.cs"⟩,
    ⟨"Go", "Edit.ASPX.cs"⟩, ⟨"Go", "Edit.ASPX.cs"⟩]

/-- Of callers in three files, one in a code-behind file is chosen from either end of the list. -/
theorem chooseCaller?_least_code_behind :
    loaderCallers ≠ [] ∧
    chooseCaller? ".aspx.cs" loader loaderCallers = some ⟨"Go", "Edit.ASPX.cs"⟩ ∧
    callerRank ".aspx.cs" loader ⟨"Go", "Edit.ASPX.cs"⟩ <
      callerRank ".aspx.cs" loader ⟨"Run", "Batch.cs"⟩ ∧
    chooseCaller? ".aspx.cs" loader loaderCallers.reverse = some ⟨"Go", "Edit.ASPX.cs"⟩ := by
  have called : loaderCallers ≠ [] := by decide
  have first : chooseCaller? ".aspx.cs" loader loaderCallers = some ⟨"Go", "Edit.ASPX.cs"⟩ :=
    (chooseCaller?_eq_some_iff ..).mpr (by decide)
  obtain ⟨chosen, choice, _, least, alike, _⟩ := chooseCaller?_least ".aspx.cs" loader called
  cases first.symm.trans choice
  exact ⟨called, first, least _ (by decide) (by decide), alike _ fun _ => List.mem_reverse⟩

end CallOrigin
