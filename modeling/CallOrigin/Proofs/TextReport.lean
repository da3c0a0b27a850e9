import CallOrigin.Report.Text
import CallOrigin.Text.CellWidth
import Mathlib.Data.List.Count
import Mathlib.Data.List.Forall2

/-! # Reading a text report back

A report in text has no marks around its fields, and a field may look like a label, like another
line or like the divider. As long as no field breaks its line the report can still be read: each line
of a block begins with a label of its own, so the field is what stands behind the label, wherever
else the label occurs. A line about a method packs a name and a file; a name without a space ends at
the first one.

`text_unambiguous` puts this together for reports of any length. Blocks come in two lengths, and the
line behind the methods tells which one it is.
-/

namespace CallOrigin

/-- That a text stays on one line. -/
abbrev OneLine (s : String) : Prop := '\n' ∉ s.toList

theorem OneLine.append {s t : String} (first : OneLine s) (second : OneLine t) :
    OneLine (s ++ t) := by
  rw [OneLine, String.toList_append, List.mem_append]
  exact fun feed => feed.elim first second

@[mk_iff]
structure Method.SingleLine (m : Method) : Prop where
  name : OneLine m.name
  file : OneLine m.file

instance (m : Method) : Decidable m.SingleLine := decidable_of_iff' _ (Method.singleLine_iff m)

namespace ApiCall

/-- That no field of a call breaks its line. -/
@[mk_iff]
structure SingleLine (c : ApiCall) : Prop where
  file : OneLine c.file
  api : OneLine c.api
  endpoint : OneLine c.endpoint
  caller : c.caller.SingleLine
  top : ∀ m ∈ c.top, m.SingleLine
  controlFile : ∀ control ∈ c.control, OneLine control.file
  controlText : ∀ control ∈ c.control, OneLine control.text

/-- That the methods of a call have names without spaces. -/
@[mk_iff]
structure Unspaced (c : ApiCall) : Prop where
  caller : ' ' ∉ c.caller.name.toList
  top : ∀ m ∈ c.top, ' ' ∉ m.name.toList

instance (c : ApiCall) : Decidable c.SingleLine := decidable_of_iff' _ (singleLine_iff c)

instance (c : ApiCall) : Decidable c.Unspaced := decidable_of_iff' _ (unspaced_iff c)

theorem topOrCaller_of {c : ApiCall} {P : Method → Prop} (caller : P c.caller)
    (top : ∀ m ∈ c.top, P m) : P c.topOrCaller := by
  rw [topOrCaller]
  cases known : c.top with
  | none => exact caller
  | some m => exact top m known

end ApiCall

namespace Report

open CallOrigin.Text (lines linesFrom)

/-! ## Lines -/

theorem linesFrom_append {front : List Char} (noFeed : '\n' ∉ front) (line rest : List Char) :
    linesFrom line (front ++ rest) = linesFrom (front.reverse ++ line) rest := by
  induction front generalizing line with
  | nil => rfl
  | cons c front ih =>
      obtain ⟨notFeed, noFeed⟩ := not_or.1 (mt List.mem_cons.2 noFeed)
      have other : (c == '\n') = false := beq_eq_false_iff_ne.2 (Ne.symm notFeed)
      rw [List.cons_append, linesFrom, other, if_neg Bool.false_ne_true, ih noFeed,
        List.reverse_cons, List.append_assoc]
      rfl

theorem lines_cons {front : List Char} (noFeed : '\n' ∉ front) (rest : List Char) :
    lines (front ++ '\n' :: rest) = front :: lines rest := by
  rw [lines, linesFrom_append noFeed, List.append_nil, linesFrom, if_pos (beq_self_eq_true _),
    List.reverse_reverse, lines]

/-- Lines that each end in a line feed are read back, with an empty line behind the last feed. -/
theorem lines_terminated {own : List (List Char)} (noFeed : ∀ line ∈ own, '\n' ∉ line) :
    lines (own.flatMap (· ++ ['\n'])) = own ++ [[]] := by
  induction own with
  | nil => rfl
  | cons line own ih =>
      rw [List.flatMap_cons, List.append_assoc, List.singleton_append,
        lines_cons (noFeed line List.mem_cons_self),
        ih fun other member => noFeed other (List.mem_cons_of_mem _ member)]
      rfl

/-! ## The lines of a report -/

theorem toList_terminated {own : List String} (nonempty : own ≠ []) :
    ("\n".intercalate own ++ "\n").toList = (own.map String.toList).flatMap (· ++ ['\n']) := by
  have feed : "\n".toList = ['\n'] := rfl
  induction own with
  | nil => exact absurd rfl nonempty
  | cons line own ih =>
      cases own with
      | nil =>
          rw [String.intercalate_singleton, String.toList_append, feed]
          simp
      | cons next own =>
          rw [String.intercalate_cons_cons, String.append_assoc, String.toList_append,
            ih (List.cons_ne_nil _ _), String.toList_append, feed]
          rfl

theorem toList_text (calls : List ApiCall) :
    (text calls).toList = ((calls.flatMap callLines).map String.toList).flatMap (· ++ ['\n']) := by
  rw [text, String.toList_join, List.flatMap_map, List.map_flatMap, List.flatMap_assoc]
  congr 1
  funext c
  exact toList_terminated (List.cons_ne_nil _ _)

theorem oneLine_methodText {m : Method} (single : m.SingleLine) : OneLine (methodText m) :=
  ((single.name.append (by decide)).append single.file).append (by decide)

theorem oneLine_controlLines {control : Option Control}
    (file : ∀ c ∈ control, OneLine c.file) (text : ∀ c ∈ control, OneLine c.text) :
    ∀ line ∈ controlLines control, OneLine line := by
  cases control with
  | none => decide +revert
  | some c =>
      have first : OneLine ("ASPX file: " ++ c.file) := .append (by decide) (file c rfl)
      have second : OneLine ("Button text: " ++ c.text) := .append (by decide) (text c rfl)
      simpa only [controlLines, List.forall_mem_cons] using
        ⟨first, second, fun _ never => absurd never List.not_mem_nil⟩

theorem oneLine_callLines {c : ApiCall} (single : c.SingleLine) :
    ∀ line ∈ callLines c, OneLine line := by
  have file : OneLine ("API called in file: " ++ c.file) := .append (by decide) single.file
  have api : OneLine ("API method: " ++ c.api) := .append (by decide) single.api
  have endpoint : OneLine ("Endpoint: " ++ c.endpoint) := .append (by decide) single.endpoint
  have caller : OneLine ("Immediate method: " ++ methodText c.caller) :=
    .append (by decide) (oneLine_methodText single.caller)
  have top : OneLine ("Top-level method: " ++ methodText c.topOrCaller) :=
    .append (by decide) (oneLine_methodText (c.topOrCaller_of single.caller single.top))
  simp only [callLines, List.cons_append, List.nil_append, List.forall_mem_cons]
  exact ⟨by decide, file, api, endpoint, caller, top,
    oneLine_controlLines single.controlFile single.controlText⟩

theorem lines_text {calls : List ApiCall} (single : ∀ c ∈ calls, c.SingleLine) :
    lines (text calls).toList = (calls.flatMap callLines).map String.toList ++ [[]] := by
  rw [toList_text, lines_terminated]
  intro _ member
  obtain ⟨line, written, rfl⟩ := List.mem_map.1 member
  obtain ⟨c, called, own⟩ := List.mem_flatMap.1 written
  exact oneLine_callLines (single c called) line own

/-! ## A block read back -/

/-- That a report in text says the same of two calls: all but the place in the file agrees, the
    outermost method being the one that contains the call where no other is known. -/
structure ReadsAlike (a b : ApiCall) : Prop where
  file : a.file = b.file
  api : a.api = b.api
  endpoint : a.endpoint = b.endpoint
  caller : a.caller = b.caller
  top : a.topOrCaller = b.topOrCaller
  control : a.control = b.control

/-- Texts are cut apart at the first mark in only one way. -/
theorem append_cons_inj {mark : Char} {front others back rest : List Char}
    (own : mark ∉ front) (other : mark ∉ others)
    (same : front ++ mark :: back = others ++ mark :: rest) : front = others ∧ back = rest := by
  induction front generalizing others with
  | nil =>
      cases others with
      | nil => exact ⟨rfl, (List.cons.inj same).2⟩
      | cons d others => exact absurd (List.cons.inj same).1 (not_or.1 (mt List.mem_cons.2 other)).1
  | cons c front ih =>
      have own := not_or.1 (mt List.mem_cons.2 own)
      cases others with
      | nil => exact absurd (List.cons.inj same).1.symm own.1
      | cons d others =>
          have other := not_or.1 (mt List.mem_cons.2 other)
          obtain ⟨rfl, behind⟩ := List.cons.inj same
          obtain ⟨rfl, rfl⟩ := ih own.2 other.2 behind
          exact ⟨rfl, rfl⟩

theorem toList_methodText (m : Method) :
    (methodText m).toList =
      m.name.toList ++ ' ' :: ("(File: ".toList ++ m.file.toList ++ [')']) := by
  have opened : " (File: ".toList = ' ' :: "(File: ".toList := by decide
  have closed : ")".toList = [')'] := rfl
  rw [methodText, String.toList_append, String.toList_append, String.toList_append, opened, closed,
    List.append_assoc, List.append_assoc, List.append_assoc]
  rfl

theorem methodText_inj {m n : Method} (own : ' ' ∉ m.name.toList) (other : ' ' ∉ n.name.toList)
    (same : methodText m = methodText n) : m = n := by
  have chars := congrArg String.toList same
  rw [toList_methodText, toList_methodText] at chars
  obtain ⟨names, files⟩ := append_cons_inj own other chars
  rw [List.append_left_inj, List.append_right_inj, String.toList_inj] at files
  rw [String.toList_inj] at names
  cases m
  cases n
  exact congrArg₂ Method.mk names files

/-- The line behind the methods tells whether there is a control. -/
theorem controlLines_append_inj {a b : Option Control} {more others : List String}
    (same : controlLines a ++ more = controlLines b ++ others) : a = b ∧ more = others := by
  have bound_ne (c : Control) :
      "ASPX file: " ++ c.file ≠ "ASPX file not found for this event." := by
    intro same
    have tenth := congrArg (fun s : String => s.toList[9]?) same
    rw [String.toList_append] at tenth
    simp at tenth
  cases a with
  | none =>
      cases b with
      | none => exact ⟨rfl, (List.cons.inj same).2⟩
      | some c => exact absurd (List.cons.inj same).1.symm (bound_ne c)
  | some c =>
      cases b with
      | none => exact absurd (List.cons.inj same).1 (bound_ne c)
      | some d =>
          obtain ⟨file, behind⟩ := List.cons.inj same
          obtain ⟨text, rest⟩ := List.cons.inj behind
          rw [String.append_right_inj] at file text
          cases c
          cases d
          exact ⟨congrArg some (congrArg₂ Control.mk file text), rest⟩

theorem callLines_append_inj {a b : ApiCall} {more others : List String}
    (own : a.Unspaced) (other : b.Unspaced)
    (same : callLines a ++ more = callLines b ++ others) : ReadsAlike a b ∧ more = others := by
  simp only [callLines, List.cons_append, List.nil_append, List.cons.injEq, true_and,
    String.append_right_inj] at same
  obtain ⟨file, api, endpoint, caller, top, behind⟩ := same
  obtain ⟨control, behind⟩ := controlLines_append_inj behind
  have callers := methodText_inj own.caller other.caller caller
  have tops := methodText_inj (a.topOrCaller_of own.caller own.top)
    (b.topOrCaller_of other.caller other.top) top
  exact ⟨⟨file, api, endpoint, callers, tops, control⟩, behind⟩

theorem ReadsAlike.callLines_eq {a b : ApiCall} (alike : ReadsAlike a b) :
    callLines a = callLines b := by
  simp only [callLines, alike.file, alike.api, alike.endpoint, alike.caller, alike.top,
    alike.control]

theorem text_eq_of_forall₂ {as bs : List ApiCall} (alike : List.Forall₂ ReadsAlike as bs) :
    text as = text bs := by
  have blocks : as.map callText = bs.map callText := by
    induction alike with
    | nil => rfl
    | cons first _ ih =>
        rw [List.map_cons, List.map_cons, callText, first.callLines_eq, ih, callText]
  rw [text, blocks, text]

/-- Block by block, the first block being cut off at the end of its control lines. -/
theorem forall₂_of_flatMap_eq {as bs : List ApiCall} (left : ∀ c ∈ as, c.Unspaced)
    (right : ∀ c ∈ bs, c.Unspaced) (same : as.flatMap callLines = bs.flatMap callLines) :
    List.Forall₂ ReadsAlike as bs := by
  induction as generalizing bs with
  | nil =>
      cases bs with
      | nil => exact .nil
      | cons b bs => cases same
  | cons a as ih =>
      cases bs with
      | nil => cases same
      | cons b bs =>
          rw [List.flatMap_cons, List.flatMap_cons] at same
          obtain ⟨first, rest⟩ :=
            callLines_append_inj (left a List.mem_cons_self) (right b List.mem_cons_self) same
          exact .cons first (ih (fun c member => left c (List.mem_cons_of_mem _ member))
            (fun c member => right c (List.mem_cons_of_mem _ member)) rest)

/-! ## Dividers -/

theorem toList_divider : divider.toList = '-' :: List.replicate 55 '-' := by
  delta divider
  rw [String.toList_ofList, List.replicate_succ]

theorem labelled_ne_divider {label : String} {c : Char} (first : label.toList.head? = some c)
    (noDash : c ≠ '-') (field : String) : label ++ field ≠ divider := by
  intro same
  have start := congrArg (·.toList.head?) same
  rw [String.toList_append, toList_divider, List.head?_append, first] at start
  exact noDash (Option.some.inj start)

theorem count_divider_controlLines (control : Option Control) :
    (controlLines control).count divider = 0 := by
  rw [List.count_eq_zero]
  cases control with
  | none =>
      have noControl : "ASPX file not found for this event." ++ "" ≠ divider :=
        labelled_ne_divider (c := 'A') (by decide) (by decide) _
      simpa [controlLines] using Ne.symm noControl
  | some control =>
      have file : "ASPX file: " ++ control.file ≠ divider :=
        labelled_ne_divider (c := 'A') (by decide) (by decide) _
      have text : "Button text: " ++ control.text ≠ divider :=
        labelled_ne_divider (c := 'B') (by decide) (by decide) _
      simp [controlLines, Ne.symm file, Ne.symm text]

theorem count_divider_callLines (c : ApiCall) : (callLines c).count divider = 1 := by
  have file : "API called in file: " ++ c.file ≠ divider :=
    labelled_ne_divider (c := 'A') (by decide) (by decide) _
  have api : "API method: " ++ c.api ≠ divider :=
    labelled_ne_divider (c := 'A') (by decide) (by decide) _
  have endpoint : "Endpoint: " ++ c.endpoint ≠ divider :=
    labelled_ne_divider (c := 'E') (by decide) (by decide) _
  have caller : "Immediate method: " ++ methodText c.caller ≠ divider :=
    labelled_ne_divider (c := 'I') (by decide) (by decide) _
  have top : "Top-level method: " ++ methodText c.topOrCaller ≠ divider :=
    labelled_ne_divider (c := 'T') (by decide) (by decide) _
  rw [callLines, List.count_append, count_divider_controlLines, List.count_cons_self,
    List.count_cons_of_ne file, List.count_cons_of_ne api, List.count_cons_of_ne endpoint,
    List.count_cons_of_ne caller, List.count_cons_of_ne top, List.count_nil]

theorem count_divider_lines {calls : List ApiCall} (single : ∀ c ∈ calls, c.SingleLine) :
    (lines (text calls).toList).count divider.toList = calls.length := by
  have last : ([[]] : List (List Char)).count divider.toList = 0 := by
    rw [toList_divider]
    rfl
  have blocks : List.count divider ∘ callLines = fun _ => 1 := funext count_divider_callLines
  rw [lines_text single, List.count_append, last, List.count_map_of_injective _ _
    (fun _ _ => String.toList_injective), List.count_flatMap, blocks]
  simp

/-- Two lists of calls without line feeds, and without spaces in names, have one report in text just
    if it says the same of their calls, one by one. A report has a divider for each call. -/
theorem text_unambiguous {as bs : List ApiCall} (left : ∀ c ∈ as, c.SingleLine ∧ c.Unspaced)
    (right : ∀ c ∈ bs, c.SingleLine ∧ c.Unspaced) :
    (text as = text bs ↔ List.Forall₂ ReadsAlike as bs) ∧
      (lines (text as).toList).count divider.toList = as.length := by
  have single : ∀ c ∈ as, c.SingleLine := fun c member => (left c member).1
  refine ⟨⟨fun same => ?_, text_eq_of_forall₂⟩, count_divider_lines single⟩
  have read := congrArg (lines ·.toList) same
  rw [lines_text single, lines_text fun c member => (right c member).1, List.append_left_inj,
    List.map_inj_right fun _ _ => String.toList_injective] at read
  exact forall₂_of_flatMap_eq (fun c member => (left c member).2)
    (fun c member => (right c member).2) read

/-- A call whose fields look like lines of the report, like the divider and like the text between a
    name and a file. -/
private def lookalike : ApiCall where
  file := "a (File: b)"
  api := "Endpoint: "
  endpoint := "--------------------------------------------------------"
  caller := ⟨"M(File:", "c) (File: d"⟩
  line := 1
  col := 2
  top := none
  control := none

theorem text_unambiguous_lookalike :
    text [lookalike] = text [{ lookalike with line := 7, top := some lookalike.caller }] ∧
      text [lookalike] ≠
        text [{ lookalike with control := some ⟨"Top-level method: ", "Button text: "⟩ }] ∧
      (lines (text [lookalike]).toList).count divider.toList = 1 := by
  have single : lookalike.SingleLine := by decide
  have unspaced : lookalike.Unspaced := by decide
  have known : ApiCall.SingleLine { lookalike with line := 7, top := some lookalike.caller } :=
    ⟨single.file, single.api, single.endpoint, single.caller, fun m named => by
      cases named
      exact single.caller, by decide, by decide⟩
  have bound : ApiCall.SingleLine
      { lookalike with control := some ⟨"Top-level method: ", "Button text: "⟩ } :=
    ⟨single.file, single.api, single.endpoint, single.caller, by decide, by decide, by decide⟩
  have own : ∀ c ∈ [lookalike], c.SingleLine ∧ c.Unspaced :=
    List.forall_mem_singleton.2 ⟨single, unspaced⟩
  obtain ⟨topKnown, dividers⟩ := text_unambiguous own (List.forall_mem_singleton.2
    ⟨known, unspaced.caller, by decide⟩)
  refine ⟨topKnown.2 (.cons ⟨rfl, rfl, rfl, rfl, rfl, rfl⟩ .nil), fun same => ?_, dividers⟩
  have alike := (text_unambiguous own (List.forall_mem_singleton.2
    ⟨bound, unspaced.caller, unspaced.top⟩)).1.1 same
  cases (List.forall₂_cons.1 alike).1.control

end Report

end CallOrigin
