import CallOrigin.Text.Matcher
import Mathlib.Data.List.Basic

/-! # What matchers lead to

A matcher hands on places in order of preference. Whatever that order is, it has a result exactly if
what comes after it has one at some place that it can lead to, and the result is of such a place. So
where all places that have a result have the same one, preference decides nothing.
-/

namespace CallOrigin.Text

/-! ## Signs

No letter has a sign below the capital letters for its lower-case form or its variant, so a sign of a
pattern stands for itself alone. -/

theorem toLower_eq_or (c : Char) : c.toLower = c ∨ 0x61 ≤ c.toLower.toNat := by
  by_cases upper : c.val ≥ 'A'.val ∧ c.val ≤ 'Z'.val
  · have low : 0x41 ≤ c.val.toNat := upper.1
    have high : c.val.toNat ≤ 0x5A := upper.2
    have lowered : c.toLower.toNat = (c.val.toNat + 32) % 2 ^ 32 :=
      congrArg Char.toNat (dif_pos upper)
    right
    omega
  · exact .inl (dif_neg upper)

theorem lower_of_mem_caseRuns : ∀ r ∈ caseRuns, 0x61 ≤ r.lower := by decide +kernel

theorem lowerChar_eq_or (c : Char) :
    lowerChar c = c ∨ (lowerChar c).toNat = 0 ∨ 0x61 ≤ (lowerChar c).toNat := by
  unfold lowerChar
  split
  · exact (toLower_eq_or c).imp_right .inr
  · split
    · rename_i r found
      have low := lower_of_mem_caseRuns r (List.mem_of_find?_eq_some found)
      right
      by_cases valid : (r.lower + (c.toNat - r.first)).isValidChar
      · have code : (Char.ofNat (r.lower + (c.toNat - r.first))).toNat =
            r.lower + (c.toNat - r.first) := congrArg Char.toNat (dif_pos valid)
        omega
      · exact .inl (congrArg Char.toNat (dif_neg valid))
    · exact .inl rfl

theorem lowerChar_of_sign {p : Char} (small : p.toNat < 0x41) : lowerChar p = p := by
  have notUpper : ¬ (p.val ≥ 'A'.val ∧ p.val ≤ 'Z'.val) := by
    intro upper
    have low : 0x41 ≤ p.val.toNat := upper.1
    exact absurd low (Nat.not_le.mpr small)
  rw [lowerChar, if_pos (by omega)]
  exact dif_neg notUpper

theorem le_of_mem_letterVariants : ∀ row ∈ letterVariants, ∀ n ∈ row, 0x61 ≤ n := by decide

theorem sameLetter_sign {p : Char} (positive : 0 < p.toNat) (small : p.toNat < 0x41) (c : Char) :
    sameLetter p c = true ↔ c = p := by
  constructor
  · intro same
    have lowered : p.toNat = (lowerChar c).toNat := by
      rcases (Bool.or_eq_true _ _).mp same with equal | variants
      · simpa [lowerChar_of_sign small] using equal
      · obtain ⟨row, listed, both⟩ := List.any_eq_true.mp variants
        have ⟨first, _⟩ := (Bool.and_eq_true _ _).mp both
        have large := le_of_mem_letterVariants row listed _ (List.contains_iff_mem.mp first)
        rw [lowerChar_of_sign small] at large
        omega
    rcases lowerChar_eq_or c with own | none | letter
    · rw [own] at lowered
      exact (Char.toNat_inj.mp lowered).symm
    · omega
    · omega
  · rintro rfl
    simp [sameLetter]

theorem sameLetter_comm (a b : Char) : sameLetter a b = sameLetter b a := by
  simp only [sameLetter, Bool.and_comm, Bool.beq_comm]

/-! ## Places behind a text -/

/-- `there` is the place behind a text that stands at a place. -/
inductive Passes : Cursor → List Char → Cursor → Prop where
  | here (at_ : Cursor) : Passes at_ [] at_
  | step {before : Option Char} {c : Char} {rest text : List Char} {there : Cursor} :
    Passes ⟨some c, rest⟩ text there → Passes ⟨before, c :: rest⟩ (c :: text) there

namespace Passes

variable {at_ there : Cursor} {text : List Char}

theorem rest_eq (passes : Passes at_ text there) : at_.rest = text ++ there.rest := by
  induction passes with
  | here at_ => rfl
  | step _ ih => exact congrArg (List.cons _) ih

theorem before_eq (passes : Passes at_ text there) : there.before = text.getLast?.or at_.before := by
  induction passes with
  | here at_ => rfl
  | @step before c rest text there _ ih =>
      rw [ih, List.getLast?_cons]
      cases text.getLast? <;> rfl

theorem append {middle : Cursor} {more : List Char} (first : Passes at_ text middle)
    (second : Passes middle more there) : Passes at_ (text ++ more) there := by
  induction first with
  | here at_ => exact second
  | step _ ih => exact .step (ih second)

theorem of_append {more : List Char} (passes : Passes at_ (text ++ more) there) :
    ∃ middle, Passes at_ text middle ∧ Passes middle more there := by
  induction text generalizing at_ with
  | nil => exact ⟨at_, .here at_, passes⟩
  | cons c text ih =>
      cases passes with
      | step passes =>
          obtain ⟨middle, first, second⟩ := ih passes
          exact ⟨middle, .step first, second⟩

end Passes

theorem passes_append (before : Option Char) (text rest : List Char) :
    Passes ⟨before, text ++ rest⟩ text ⟨text.getLast?.or before, rest⟩ := by
  induction text generalizing before with
  | nil => exact .here _
  | cons c text ih =>
      have last : (c :: text).getLast?.or before = text.getLast?.or (some c) := by
        rw [List.getLast?_cons]
        cases text.getLast? <;> rfl
      rw [last]
      exact .step (ih (some c))

namespace Matcher

variable {α : Type}

/-- A way is what a matcher leads along: it has a result only if there is one along the way, which
    is then its own, and whenever there is one. -/
structure Leads (m : Matcher α) (way : Cursor → Cursor → Prop) : Prop where
  sound {next : Cursor → Option α} {at_ : Cursor} {a : α} :
    m next at_ = some a → ∃ there, way at_ there ∧ next there = some a
  complete {next : Cursor → Option α} {at_ there : Cursor} :
    way at_ there → next there ≠ none → m next at_ ≠ none

/-- The way past a text of a kind. -/
def Past (kind : List Char → Prop) (at_ there : Cursor) : Prop :=
  ∃ text, kind text ∧ Passes at_ text there

/-- A text has the letters of a pattern, case and variants apart. -/
def Spells (pattern text : List Char) : Prop :=
  List.Forall₂ (fun p c => sameLetter p c = true) pattern text

def AllOf (p : Char → Bool) (text : List Char) : Prop := ∀ c ∈ text, p c = true

/-- A place between a word character and one that is none. -/
def AtBoundary (before next : Option Char) : Prop := before.any isWord ≠ next.any isWord

/-- The names that one of several spellings stands for: where there are none, it is the empty one. -/
def spellings (names : List String) : List String :=
  if names.isEmpty then [""] else names

theorem leads_letters (pattern : List Char) :
    Leads (letters (α := α) pattern) (Past (Spells pattern)) := by
  induction pattern with
  | nil =>
      refine ⟨?_, ?_⟩
      · intro next at_ a found
        exact ⟨at_, ⟨[], .nil, .here at_⟩, found⟩
      · rintro next at_ there ⟨text, spells, passes⟩ result
        cases spells
        cases passes
        exact result
  | cons p pattern ih =>
      refine ⟨?_, ?_⟩
      · rintro next ⟨before, rest⟩ a found
        cases rest with
        | nil => cases found
        | cons c rest =>
            simp only [letters] at found
            split at found
            · rename_i same
              obtain ⟨there, ⟨text, spells, passes⟩, result⟩ := ih.sound found
              exact ⟨there, ⟨c :: text, .cons same spells, .step passes⟩, result⟩
            · cases found
      · rintro next at_ there ⟨text, spells, passes⟩ result
        cases spells with
        | cons same spells =>
            cases passes with
            | step passes =>
                simp only [letters, same, if_true]
                exact ih.complete ⟨_, spells, passes⟩ result

/-- A matcher that at each character of a class tries both to stop and to go on, in either order. -/
theorem leads_run {m : Matcher α} {p : Char → Bool}
    (last : ∀ next before, m next ⟨before, []⟩ = next ⟨before, []⟩)
    (either : ∀ next before c rest,
      m next ⟨before, c :: rest⟩ =
          (next ⟨before, c :: rest⟩).or (if p c then m next ⟨some c, rest⟩ else none) ∨
        m next ⟨before, c :: rest⟩ =
          (if p c then m next ⟨some c, rest⟩ else none).or (next ⟨before, c :: rest⟩)) :
    Leads m (Past (AllOf p)) := by
  refine ⟨?_, ?_⟩
  · rintro next ⟨before, rest⟩ a found
    induction rest generalizing before with
    | nil =>
        rw [last] at found
        exact ⟨_, ⟨[], nofun, .here _⟩, found⟩
    | cons c rest ih =>
        have split : next ⟨before, c :: rest⟩ = some a ∨
            (if p c then m next ⟨some c, rest⟩ else none) = some a := by
          rcases either next before c rest with tried | tried
          · rw [tried, Option.or_eq_some_iff] at found
            exact found.imp_right And.right
          · rw [tried, Option.or_eq_some_iff] at found
            exact (found.imp_right And.right).symm
        rcases split with here | later
        · exact ⟨_, ⟨[], nofun, .here _⟩, here⟩
        · split at later
          · rename_i inside
            obtain ⟨there, ⟨text, all, passes⟩, result⟩ := ih _ later
            exact ⟨there, ⟨c :: text, List.forall_mem_cons.mpr ⟨inside, all⟩, .step passes⟩, result⟩
          · cases later
  · rintro next at_ there ⟨text, all, passes⟩ result
    have both (before : Option Char) (c : Char) (rest : List Char)
        (none : m next ⟨before, c :: rest⟩ = none) :
        next ⟨before, c :: rest⟩ = .none ∧ (p c = true → m next ⟨some c, rest⟩ = .none) := by
      rcases either next before c rest with tried | tried
      · rw [tried, Option.or_eq_none_iff] at none
        exact ⟨none.1, fun inside => by simpa [inside] using none.2⟩
      · rw [tried, Option.or_eq_none_iff] at none
        exact ⟨none.2, fun inside => by simpa [inside] using none.1⟩
    induction passes with
    | here at_ =>
        obtain ⟨before, rest⟩ := at_
        cases rest with
        | nil => rwa [last]
        | cons c rest => exact fun none => result (both _ _ _ none).1
    | @step before c rest text there _ ih =>
        obtain ⟨inside, all⟩ := List.forall_mem_cons.mp all
        exact fun none => ih all result ((both _ _ _ none).2 inside)

theorem leads_fewest (p : Char → Bool) : Leads (fewest (α := α) p) (Past (AllOf p)) :=
  leads_run (fun _ _ => rfl) (fun _ _ _ _ => .inl rfl)

theorem leads_most (p : Char → Bool) : Leads (most (α := α) p) (Past (AllOf p)) :=
  leads_run (fun _ _ => rfl) (fun _ _ _ _ => .inr rfl)

theorem leads_some1 (p : Char → Bool) :
    Leads (some1 (α := α) p) (Past fun text => text ≠ [] ∧ AllOf p text) := by
  refine ⟨?_, ?_⟩
  · rintro next ⟨before, rest⟩ a found
    cases rest with
    | nil => cases found
    | cons c rest =>
        simp only [some1] at found
        split at found
        · rename_i inside
          obtain ⟨there, ⟨text, all, passes⟩, result⟩ := (leads_most p).sound found
          exact ⟨there, ⟨c :: text, ⟨nofun, List.forall_mem_cons.mpr ⟨inside, all⟩⟩, .step passes⟩,
            result⟩
        · cases found
  · rintro next at_ there ⟨text, ⟨nonempty, all⟩, passes⟩ result
    cases passes with
    | here => exact absurd rfl nonempty
    | step passes =>
        obtain ⟨inside, all⟩ := List.forall_mem_cons.mp all
        simp only [some1, inside, if_true]
        exact (leads_most p).complete ⟨_, all, passes⟩ result

theorem leads_boundary : Leads (boundary (α := α))
    (fun at_ there => at_ = there ∧ AtBoundary at_.before at_.rest.head?) := by
  refine ⟨?_, ?_⟩
  · intro next at_ a found
    rw [boundary] at found
    split at found
    · cases found
    · rename_i apart
      exact ⟨at_, ⟨rfl, by simpa [AtBoundary] using apart⟩, found⟩
  · rintro next at_ _ ⟨rfl, apart⟩ result
    rw [boundary, if_neg (by simpa [AtBoundary] using apart)]
    exact result

theorem leads_spelling (names : List String) : Leads (spelling (α := α) names)
    (Past fun text => ∃ name ∈ spellings names, Spells name.toList text) := by
  cases names with
  | nil =>
      refine ⟨?_, ?_⟩
      · intro next at_ a found
        exact ⟨at_, ⟨[], ⟨"", List.mem_singleton_self _, .nil⟩, .here at_⟩, found⟩
      · rintro next at_ there ⟨text, ⟨name, listed, spells⟩, passes⟩ result
        cases List.mem_singleton.mp listed
        cases spells
        cases passes
        exact result
  | cons first others =>
      refine ⟨?_, ?_⟩
      · intro next at_ a found
        obtain ⟨name, listed, found⟩ := List.exists_of_findSome?_eq_some found
        obtain ⟨there, ⟨text, spells, passes⟩, result⟩ := (leads_letters _).sound found
        exact ⟨there, ⟨text, ⟨name, listed, spells⟩, passes⟩, result⟩
      · rintro next at_ there ⟨text, ⟨name, listed, spells⟩, passes⟩ result none
        have none := List.findSome?_eq_none_iff.mp none name listed
        exact (leads_letters _).complete ⟨text, spells, passes⟩ result none

/-- As few characters as possible: there is no result before the first that leads to one. -/
theorem fewest_first {p : Char → Bool} {next : Cursor → Option α} {at_ : Cursor} {a : α}
    (found : fewest p next at_ = some a) :
    ∃ text there, AllOf p text ∧ Passes at_ text there ∧ next there = some a ∧
      ∀ earlier before, Passes at_ earlier before → earlier.length < text.length →
        next before = none := by
  obtain ⟨before, rest⟩ := at_
  simp only [fewest] at found
  induction rest generalizing before with
  | nil => exact ⟨[], _, nofun, .here _, found, nofun⟩
  | cons c rest ih =>
      rw [fewestFrom, Option.or_eq_some_iff] at found
      rcases found with here | ⟨notHere, later⟩
      · exact ⟨[], _, nofun, .here _, here, nofun⟩
      · split at later
        · rename_i inside
          obtain ⟨text, there, all, passes, result, first⟩ := ih _ later
          refine ⟨c :: text, there, List.forall_mem_cons.mpr ⟨inside, all⟩, .step passes, result, ?_⟩
          intro earlier place reached shorter
          cases reached with
          | here => exact notHere
          | step reached => exact first _ _ reached (Nat.lt_of_succ_lt_succ shorter)
        · cases later

end Matcher

end CallOrigin.Text
