import CallOrigin.Proofs.Terminals
import CallOrigin.Report.Summary
import Mathlib.Data.List.Forall2

/-! # The table of the summary

The summary puts the cells of each call below its columns, and a console reads them column by column,
as markup. Where every cell can be read, the rows of what it reads are those of the calls, in order. A
row says what the console shows for the cells, which need not be what was found: the names of methods
are taken for markup, so a tag in one is lost or keeps the whole summary from being shown, and
escaping does not keep every text.
-/

namespace CallOrigin

/-! ## Rows of a table -/

namespace Table

/-- That a table has columns, all with the same number of cells. -/
structure Even (t : Table) (n : Nat) : Prop where
  nonempty : t.columns ≠ []
  all : ∀ c ∈ t.columns, c.cells.length = n

theorem foldl_max_eq {k : Nat} {xs : List Nat} (all : ∀ x ∈ xs, x = k) (nonempty : xs ≠ []) :
    xs.foldl max 0 = k := by
  have behind : ∀ ys : List Nat, (∀ y ∈ ys, y = k) → ys.foldl max k = k := by
    intro ys same
    induction ys with
    | nil => rfl
    | cons y ys ih =>
        rw [List.foldl_cons, same y List.mem_cons_self, Nat.max_self]
        exact ih fun other member => same other (List.mem_cons_of_mem _ member)
  cases xs with
  | nil => exact absurd rfl nonempty
  | cons x xs =>
      rw [List.foldl_cons, all x List.mem_cons_self, Nat.zero_max]
      exact behind xs fun other member => all other (List.mem_cons_of_mem _ member)

theorem Even.height {t : Table} {n : Nat} (even : t.Even n) : t.height = n :=
  foldl_max_eq (List.forall_mem_map.2 even.all) (by simpa using even.nonempty)

section
variable {columns : List Column} {cells : List String} {n : Nat}
  (wide : cells.length = columns.length) (even : ∀ c ∈ columns, c.cells.length = n)
include wide even

theorem length_zipWith_add : ∀ c ∈ columns.zipWith Column.add cells, c.cells.length = n + 1 := by
  induction columns generalizing cells with
  | nil => simp
  | cons c columns ih =>
      cases cells with
      | nil => cases wide
      | cons cell cells =>
          obtain ⟨here, later⟩ := List.forall_mem_cons.1 even
          refine List.forall_mem_cons.2 ⟨?_, ih (Nat.succ.inj wide) later⟩
          rw [Column.add, List.length_append, here]
          rfl

/-- The rows above a new one stay. -/
theorem filterMap_add_of_lt {i : Nat} (above : i < n) :
    (columns.zipWith Column.add cells).filterMap (·.cells[i]?) =
      columns.filterMap (·.cells[i]?) := by
  induction columns generalizing cells with
  | nil => simp
  | cons c columns ih =>
      cases cells with
      | nil => cases wide
      | cons cell cells =>
          obtain ⟨here, later⟩ := List.forall_mem_cons.1 even
          have same : (c.add cell).cells[i]? = c.cells[i]? :=
            List.getElem?_append_left (by rw [here]; exact above)
          rw [List.zipWith_cons_cons, List.filterMap_cons, List.filterMap_cons, same,
            ih (Nat.succ.inj wide) later]

theorem filterMap_add : (columns.zipWith Column.add cells).filterMap (·.cells[n]?) = cells := by
  induction columns generalizing cells with
  | nil => exact (List.length_eq_zero_iff.1 wide).symm
  | cons c columns ih =>
      cases cells with
      | nil => cases wide
      | cons cell cells =>
          obtain ⟨here, later⟩ := List.forall_mem_cons.1 even
          have last : (c.add cell).cells[n]? = some cell := by
            rw [← here]
            exact List.getElem?_concat_length
          rw [List.zipWith_cons_cons, List.filterMap_cons, last, ih (Nat.succ.inj wide) later]

end

theorem length_columns_addRow {t : Table} {cells : List String}
    (wide : cells.length = t.columns.length) :
    (t.addRow cells).columns.length = t.columns.length := by
  rw [addRow, List.length_zipWith, wide, Nat.min_self]

theorem title_foldl (rows : List (List String)) (t : Table) :
    (rows.foldl addRow t).title = t.title := by
  induction rows generalizing t with
  | nil => rfl
  | cons row rows ih => exact ih (t.addRow row)

section
variable {t : Table} {n : Nat} (even : t.Even n)
include even

theorem Even.addRow {cells : List String} (wide : cells.length = t.columns.length) :
    (t.addRow cells).Even (n + 1) where
  nonempty := by
    refine List.length_pos_iff.1 ?_
    rw [length_columns_addRow wide]
    exact List.length_pos_iff.2 even.nonempty
  all := length_zipWith_add wide even.all

theorem Even.rows_addRow {cells : List String} (wide : cells.length = t.columns.length) :
    (t.addRow cells).rows = t.rows ++ [cells] := by
  rw [rows, (even.addRow wide).height, List.range_succ, List.map_append, rows, even.height]
  congr 1
  · refine List.map_congr_left fun i inside => ?_
    exact filterMap_add_of_lt wide even.all (List.mem_range.1 inside)
  · exact congrArg ([·]) (filterMap_add wide even.all)

theorem Even.rows_foldl {rows : List (List String)}
    (wide : ∀ row ∈ rows, row.length = t.columns.length) :
    (rows.foldl Table.addRow t).rows = t.rows ++ rows := by
  induction rows generalizing t n with
  | nil => exact (List.append_nil _).symm
  | cons row rows ih =>
      obtain ⟨here, later⟩ := List.forall_mem_cons.1 wide
      rw [List.foldl_cons, ih (even.addRow here) (by rwa [length_columns_addRow here]),
        even.rows_addRow here, List.append_assoc]
      rfl

end

theorem even_empty {title : String} {headings : List String} (nonempty : headings ≠ []) :
    (empty title headings).Even 0 where
  nonempty := by simpa [empty] using nonempty
  all := List.forall_mem_map.2 fun _ _ => rfl

theorem rows_empty {title : String} {headings : List String} (nonempty : headings ≠ []) :
    (empty title headings).rows = [] := by
  rw [rows, (even_empty nonempty).height]
  rfl

end Table

/-! ## Tables as a console reads them -/

section
variable {α β ε : Type}

theorem bind_eq_ok_iff {x : Except ε α} {f : α → Except ε β} {b : β} :
    (x >>= f) = .ok b ↔ ∃ a, x = .ok a ∧ f a = .ok b := by
  cases x <;> simp [bind, Except.bind]

theorem bind_eq_error_iff {x : Except ε α} {f : α → Except ε β} {e : ε} :
    (x >>= f) = .error e ↔ x = .error e ∨ ∃ a, x = .ok a ∧ f a = .error e := by
  cases x <;> simp [bind, Except.bind]

theorem mapM_eq_ok_iff {f : α → Except ε β} {xs : List α} {ys : List β} :
    xs.mapM f = .ok ys ↔ List.Forall₂ (fun x y => f x = .ok y) xs ys := by
  induction xs generalizing ys with
  | nil =>
      rw [List.forall₂_nil_left_iff, List.mapM_nil]
      exact ⟨fun done => (Except.ok.inj done).symm, fun done => congrArg _ done.symm⟩
  | cons x xs ih =>
      simp only [List.mapM_cons, List.forall₂_cons_left_iff, bind_eq_ok_iff, ih]
      constructor
      · rintro ⟨y, here, rest, later, done⟩
        exact ⟨y, rest, here, later, (Except.ok.inj done).symm⟩
      · rintro ⟨y, rest, here, later, rfl⟩
        exact ⟨y, here, rest, later, rfl⟩

theorem exists_of_mapM_error {f : α → Except ε β} {xs : List α} {e : ε}
    (failed : xs.mapM f = .error e) : ∃ x ∈ xs, f x = .error e := by
  induction xs with
  | nil => cases failed
  | cons x xs ih =>
      simp only [List.mapM_cons, bind_eq_error_iff] at failed
      rcases failed with here | ⟨_, _, later | ⟨_, _, never⟩⟩
      · exact ⟨x, List.mem_cons_self, here⟩
      · obtain ⟨other, member, own⟩ := ih later
        exact ⟨other, List.mem_cons_of_mem _ member, own⟩
      · cases never

/-- Each of some things has a partner just if there is a list of partners. -/
theorem exists_forall₂_iff {R : α → β → Prop} {xs : List α} :
    (∃ ys, List.Forall₂ R xs ys) ↔ ∀ x ∈ xs, ∃ y, R x y := by
  induction xs with
  | nil => simp
  | cons x xs ih =>
      simp only [List.forall₂_cons_left_iff, List.forall_mem_cons, ← ih]
      constructor
      · rintro ⟨_, y, ys, here, later, -⟩
        exact ⟨⟨y, here⟩, ys, later⟩
      · rintro ⟨⟨y, here⟩, ys, later⟩
        exact ⟨_, y, ys, here, later, rfl⟩

end

namespace Terminal
variable {t : Terminal}

/-- That markup is read as texts, one by one. -/
abbrev Reads (t : Terminal) (markup texts : List String) : Prop :=
  List.Forall₂ (fun markup text => t.read markup = .ok text) markup texts

theorem readMarkup_eq_ok_iff {markup text : String} :
    t.readMarkup markup = .ok text ↔ t.read markup = .ok text := by
  rw [readMarkup]
  cases t.read markup <;> simp [Except.mapError]

theorem readMarkup_eq_error {markup : String} {fault : ConsoleFault}
    (failed : t.readMarkup markup = .error fault) : ∃ message, fault = .markup message := by
  rw [readMarkup] at failed
  cases read : t.read markup with
  | error message =>
      rw [read] at failed
      cases failed
      exact ⟨message, rfl⟩
  | ok text => rw [read] at failed; cases failed

theorem readColumn_eq_ok_iff {c shown : Column} :
    t.readColumn c = .ok shown ↔
      t.read c.heading = .ok shown.heading ∧ t.Reads c.cells shown.cells := by
  simp only [readColumn, bind_eq_ok_iff, readMarkup_eq_ok_iff, mapM_eq_ok_iff]
  constructor
  · rintro ⟨heading, named, cells, read, done⟩
    cases done
    exact ⟨named, read⟩
  · rintro ⟨named, read⟩
    exact ⟨_, named, _, read, rfl⟩

theorem readTable_eq_ok_iff {table shown : Table} :
    t.readTable table = .ok shown ↔
      t.read table.title = .ok shown.title ∧
        List.Forall₂ (fun c own => t.readColumn c = .ok own) table.columns shown.columns := by
  simp only [readTable, bind_eq_ok_iff, readMarkup_eq_ok_iff, mapM_eq_ok_iff]
  constructor
  · rintro ⟨columns, read, title, titled, done⟩
    cases done
    exact ⟨titled, read⟩
  · rintro ⟨titled, read⟩
    exact ⟨_, read, _, titled, rfl⟩

theorem readTable_eq_error {table : Table} {fault : ConsoleFault}
    (failed : t.readTable table = .error fault) : ∃ message, fault = .markup message := by
  have column {c : Column} (failed : t.readColumn c = .error fault) :
      ∃ message, fault = .markup message := by
    simp only [readColumn, bind_eq_error_iff] at failed
    rcases failed with heading | ⟨_, _, cells | ⟨_, _, never⟩⟩
    · exact readMarkup_eq_error heading
    · obtain ⟨_, _, own⟩ := exists_of_mapM_error cells
      exact readMarkup_eq_error own
    · cases never
  simp only [readTable, bind_eq_error_iff] at failed
  rcases failed with columns | ⟨_, _, title | ⟨_, _, never⟩⟩
  · obtain ⟨_, _, own⟩ := exists_of_mapM_error columns
    exact column own
  · exact readMarkup_eq_error title
  · cases never

theorem readColumn_add_iff {c shown : Column} {cell : String} :
    t.readColumn (c.add cell) = .ok shown ↔
      ∃ before text, t.readColumn c = .ok before ∧ t.read cell = .ok text ∧
        shown = before.add text := by
  simp only [readColumn, Column.add, List.mapM_append, List.mapM_cons, List.mapM_nil, bind_eq_ok_iff,
    readMarkup_eq_ok_iff]
  constructor
  · rintro ⟨heading, named, _, ⟨above, read, _, ⟨text, here, _, ⟨⟩, ⟨⟩⟩, ⟨⟩⟩, ⟨⟩⟩
    exact ⟨⟨heading, above⟩, text, ⟨_, named, _, read, rfl⟩, here, rfl⟩
  · rintro ⟨_, text, ⟨heading, named, above, read, ⟨⟩⟩, here, rfl⟩
    exact ⟨heading, named, _, ⟨above, read, _, ⟨text, here, _, rfl, rfl⟩, rfl⟩, rfl⟩

theorem readColumns_add_iff {columns shown : List Column} {cells : List String}
    (wide : cells.length = columns.length) :
    List.Forall₂ (fun c own => t.readColumn c = .ok own) (columns.zipWith Column.add cells) shown ↔
      ∃ before texts, List.Forall₂ (fun c own => t.readColumn c = .ok own) columns before ∧
        t.Reads cells texts ∧ shown = before.zipWith Column.add texts := by
  induction columns generalizing cells shown with
  | nil =>
      obtain rfl := List.length_eq_zero_iff.1 wide
      simp
  | cons c columns ih =>
      cases cells with
      | nil => cases wide
      | cons cell cells =>
          simp only [List.zipWith_cons_cons, List.forall₂_cons_left_iff, readColumn_add_iff,
            ih (Nat.succ.inj wide)]
          constructor
          · rintro ⟨_, _, ⟨own, text, here, read, rfl⟩, ⟨before, texts, later, others, rfl⟩, rfl⟩
            exact ⟨own :: before, text :: texts, ⟨_, _, here, later, rfl⟩,
              ⟨_, _, read, others, rfl⟩, rfl⟩
          · rintro ⟨_, _, ⟨own, before, here, later, rfl⟩, ⟨text, texts, read, others, rfl⟩, rfl⟩
            exact ⟨_, _, ⟨own, text, here, read, rfl⟩, ⟨before, texts, later, others, rfl⟩, rfl⟩

/-- A table is read row by row as well. -/
theorem readTable_addRow_iff {table shown : Table} {cells : List String}
    (wide : cells.length = table.columns.length) :
    t.readTable (table.addRow cells) = .ok shown ↔
      ∃ before texts, t.readTable table = .ok before ∧ t.Reads cells texts ∧
        shown = before.addRow texts := by
  simp only [readTable_eq_ok_iff, Table.addRow, readColumns_add_iff wide]
  constructor
  · rintro ⟨titled, before, texts, read, cells, same⟩
    refine ⟨⟨shown.title, before⟩, texts, ⟨titled, read⟩, cells, ?_⟩
    rw [← same]
  · rintro ⟨before, texts, ⟨titled, read⟩, cells, rfl⟩
    exact ⟨titled, before.columns, texts, read, cells, rfl⟩

theorem readTable_foldl_iff {table shown : Table} {rows : List (List String)}
    (wide : ∀ row ∈ rows, row.length = table.columns.length) :
    t.readTable (rows.foldl Table.addRow table) = .ok shown ↔
      ∃ before texts, t.readTable table = .ok before ∧ List.Forall₂ t.Reads rows texts ∧
        shown = texts.foldl Table.addRow before := by
  induction rows generalizing table with
  | nil => simp
  | cons row rows ih =>
      obtain ⟨here, later⟩ := List.forall_mem_cons.1 wide
      rw [List.foldl_cons, ih (by rwa [Table.length_columns_addRow here])]
      simp only [readTable_addRow_iff here, List.forall₂_cons_left_iff]
      constructor
      · rintro ⟨_, texts, ⟨before, text, read, own, rfl⟩, others, rfl⟩
        exact ⟨before, text :: texts, read, ⟨_, _, own, others, rfl⟩, rfl⟩
      · rintro ⟨before, _, read, ⟨text, texts, own, others, rfl⟩, rfl⟩
        exact ⟨_, texts, ⟨before, text, read, own, rfl⟩, others, rfl⟩

end Terminal

/-! ## What a row says -/

namespace Report

/-- That the cells of a call are shown as the texts of a row. -/
abbrev CallShown (t : Terminal) (c : ApiCall) (row : List String) : Prop :=
  t.Reads (cellMarkup t c) row

/-- What was found, as a row is to say it. -/
def said (c : ApiCall) : List String :=
  [c.api, c.endpoint, c.topOrCaller.name, (c.control.map Control.text).getD "not found"]

/-- That a row says what was found: the names are plain text to a console, and the other texts are
    once they are escaped. -/
structure SaidAsFound (t : Terminal) (c : ApiCall) : Prop where
  api : t.Plain c.api
  endpoint : t.Escapable c.endpoint
  top : t.Plain c.topOrCaller.name
  control : ∀ control ∈ c.control, t.Escapable control.text

/-- The markup of the cell about the control. -/
def controlMarkup (t : Terminal) (control : Option Control) : String :=
  (control.map (t.escape ·.text)).getD "[dim]not found[/dim]"

theorem cellMarkup_eq (t : Terminal) (c : ApiCall) :
    cellMarkup t c =
      [c.api, t.escape c.endpoint, c.topOrCaller.name, controlMarkup t c.control] := by
  rw [cellMarkup, controlMarkup]
  cases c.control <;> rfl

variable {t : Terminal}

theorem rows_of_callShown {calls : List ApiCall} {rows : List (List String)}
    (shows : List.Forall₂ (CallShown t) calls rows) (count : Nat) :
    (rows.foldl Table.addRow (Table.empty (title count) headings)).rows = rows := by
  have nonempty : headings ≠ [] := by decide
  have wide : ∀ row ∈ rows,
      row.length = (Table.empty (title count) headings).columns.length := by
    induction shows with
    | nil => simp
    | cons here _ ih => exact List.forall_mem_cons.2 ⟨here.length_eq.symm, ih⟩
  rw [(Table.even_empty nonempty).rows_foldl wide, Table.rows_empty nonempty, List.nil_append]

section
variable (documented : t.Documented)
include documented

theorem read_not_found : t.read "[dim]not found[/dim]" = .ok "not found" :=
  documented.styled "not found" (by simp)

theorem exists_callShown_iff {c : ApiCall} :
    (∃ row, CallShown t c row) ↔
      (∃ text, t.read c.api = .ok text) ∧ ∃ text, t.read c.topOrCaller.name = .ok text := by
  have control : ∃ text, t.read (controlMarkup t c.control) = .ok text := by
    cases c.control with
    | none => exact ⟨_, read_not_found documented⟩
    | some control => exact documented.escaped control.text
  simp only [CallShown, cellMarkup_eq, Terminal.Reads, List.forall₂_cons_left_iff]
  constructor
  · rintro ⟨_, api, _, apiRead, ⟨_, _, _, ⟨top, _, topRead, _⟩, _⟩, _⟩
    exact ⟨⟨api, apiRead⟩, top, topRead⟩
  · rintro ⟨⟨api, apiRead⟩, top, topRead⟩
    obtain ⟨endpoint, endpointRead⟩ := documented.escaped c.endpoint
    obtain ⟨control, controlRead⟩ := control
    exact ⟨_, api, _, apiRead, ⟨endpoint, _, endpointRead, ⟨top, _, topRead,
      ⟨control, _, controlRead, .nil, rfl⟩, rfl⟩, rfl⟩, rfl⟩

theorem callShown_said {c : ApiCall} (found : SaidAsFound t c) : CallShown t c (said c) := by
  have control : t.read (controlMarkup t c.control) =
      .ok ((c.control.map Control.text).getD "not found") := by
    cases known : c.control with
    | none => exact read_not_found documented
    | some control => exact documented.kept _ (found.control control known)
  rw [CallShown, cellMarkup_eq]
  exact .cons (documented.plain _ found.api) (.cons (documented.kept _ found.endpoint)
    (.cons (documented.plain _ found.top) (.cons control .nil)))

/-! ## The summary -/

theorem read_title (count : Nat) : t.read (title count) = .ok (title count) := by
  refine documented.plain _ (Terminal.plain_of_all ?_)
  have digits : (toString count).toList.all (fun c => Console.isPlain c && c != ':') = true := by
    rw [Nat.toString_eq_ofList_toDigits, String.toList_ofList, List.all_eq_true]
    intro c member
    exact Terminal.isPlain_of_digit (Nat.isDigit_of_mem_toDigits (by decide) (by decide) member)
  rw [title, String.toList_append, String.toList_append, List.all_append, List.all_append, digits]
  decide

theorem readTable_empty (count : Nat) :
    t.readTable (Table.empty (title count) headings) =
      .ok (Table.empty (title count) headings) := by
  have plain : ∀ heading ∈ headings,
      heading.toList.all (fun c => Console.isPlain c && c != ':') = true := by decide
  refine Terminal.readTable_eq_ok_iff.2 ⟨read_title documented count, ?_⟩
  rw [Table.empty, List.forall₂_map_left_iff, List.forall₂_map_right_iff, List.forall₂_same]
  intro heading member
  exact Terminal.readColumn_eq_ok_iff.2
    ⟨documented.plain _ (Terminal.plain_of_all (plain heading member)), .nil⟩

/-- The summary as a console reads it has the rows of the calls. -/
theorem readTable_table_iff {calls : List ApiCall} {shown : Table} :
    t.readTable (table t calls) = .ok shown ↔
      ∃ rows, List.Forall₂ (CallShown t) calls rows ∧
        shown = rows.foldl Table.addRow (Table.empty (title calls.length) headings) := by
  have wide : ∀ row ∈ calls.map (cellMarkup t),
      row.length = (Table.empty (title calls.length) headings).columns.length := by
    intro row member
    obtain ⟨c, _, rfl⟩ := List.mem_map.1 member
    rfl
  have unfolded : table t calls =
      (calls.map (cellMarkup t)).foldl Table.addRow
        (Table.empty (title calls.length) headings) := by
    rw [table, List.foldl_map]
  rw [unfolded, Terminal.readTable_foldl_iff wide]
  simp only [List.forall₂_map_left_iff, readTable_empty documented, Except.ok.injEq]
  constructor
  · rintro ⟨_, rows, rfl, shows, done⟩
    exact ⟨rows, shows, done⟩
  · rintro ⟨rows, shows, done⟩
    exact ⟨_, rows, rfl, shows, done⟩

theorem exists_readTable_iff {calls : List ApiCall} :
    (∃ shown, t.readTable (table t calls) = .ok shown) ↔ ∀ c ∈ calls,
      (∃ text, t.read c.api = .ok text) ∧ ∃ text, t.read c.topOrCaller.name = .ok text := by
  simp only [readTable_table_iff documented, ← exists_callShown_iff documented,
    ← exists_forall₂_iff]
  constructor
  · rintro ⟨_, rows, shows, -⟩
    exact ⟨rows, shows⟩
  · rintro ⟨rows, shows⟩
    exact ⟨_, rows, shows, rfl⟩

/-- Only the names of methods, and only if they are not plain text to a console, keep it from reading
    a summary. -/
theorem names_of_readTable_error {calls : List ApiCall} {fault : ConsoleFault}
    (failed : t.readTable (table t calls) = .error fault) :
    ∃ c ∈ calls, ¬ t.Plain c.api ∨ ¬ t.Plain c.topOrCaller.name := by
  by_contra plain
  have names : ∀ c ∈ calls,
      (∃ text, t.read c.api = .ok text) ∧ ∃ text, t.read c.topOrCaller.name = .ok text := by
    intro c called
    obtain ⟨api, top⟩ := not_or.1 fun tagged => plain ⟨c, called, tagged⟩
    exact ⟨⟨_, documented.plain _ (not_not.1 api)⟩, _, documented.plain _ (not_not.1 top)⟩
  obtain ⟨shown, read⟩ := (exists_readTable_iff documented).2 names
  cases failed.symm.trans read

/-- A console reads the summary just if it can read all names of methods; if not, the markup is at
    fault. What it reads and lays out is a table with a row for each call, in order, of what it shows
    for the cells. A row says what was found if the console makes no more of any cell than its
    text. -/
theorem summary_rows (calls : List ApiCall) :
    ((∃ shown, t.readTable (table t calls) = .ok shown) ↔ ∀ c ∈ calls,
      (∃ text, t.read c.api = .ok text) ∧ ∃ text, t.read c.topOrCaller.name = .ok text) ∧
    (∀ fault, t.readTable (table t calls) = .error fault →
      printSummary t calls = .error fault ∧ ∃ message, fault = .markup message) ∧
    (∀ shown, t.readTable (table t calls) = .ok shown →
      printSummary t calls = (t.layTable shown).mapError .device ∧
      shown.title = title calls.length ∧
      List.Forall₂ (CallShown t) calls shown.rows) ∧
    ((∀ c ∈ calls, SaidAsFound t c) → ∃ shown, t.readTable (table t calls) = .ok shown ∧
      shown.rows = calls.map said) := by
  refine ⟨exists_readTable_iff documented, ?_, ?_, ?_⟩
  · intro fault failed
    refine ⟨?_, Terminal.readTable_eq_error failed⟩
    rw [printSummary, Terminal.printTable, failed]
    rfl
  · intro shown read
    obtain ⟨rows, shows, rfl⟩ := (readTable_table_iff documented).1 read
    refine ⟨?_, Table.title_foldl rows _, ?_⟩
    · rw [printSummary, Terminal.printTable, read]
      rfl
    · rwa [rows_of_callShown shows]
  · intro found
    have shows : List.Forall₂ (CallShown t) calls (calls.map said) := by
      rw [List.forall₂_map_right_iff, List.forall₂_same]
      exact fun c called => callShown_said documented (found c called)
    exact ⟨_, (readTable_table_iff documented).2 ⟨_, shows, rfl⟩, rows_of_callShown shows _⟩

end

/-- A call with tags in its argument and in the text of its control. -/
private def tagged : ApiCall where
  file := "P.aspx.cs"
  api := "GET_JWT"
  endpoint := "x[/b]\\[i]"
  caller := ⟨"Load", "P.aspx.cs"⟩
  line := 0
  col := 0
  top := none
  control := some ⟨"P.aspx", "Go [now]"⟩

theorem summary_rows_tagged :
    ∃ shown, Console.wide.readTable (table Console.wide [tagged]) = .ok shown ∧
      shown.rows = [["GET_JWT", "x[/b]\\[i]", "Load", "Go [now]"]] ∧
      printSummary Console.wide [tagged] = (Console.wide.layTable shown).mapError .device := by
  have found : ∀ c ∈ [tagged], SaidAsFound Console.wide c := by
    refine List.forall_mem_singleton.2 ⟨Terminal.plain_of_all (by decide), ⟨by decide, ?_⟩,
      Terminal.plain_of_all (by decide), fun control known => ?_⟩
    · exact Terminal.signFree_of_not_mem (by decide)
    · cases known
      exact ⟨by decide, Terminal.signFree_of_not_mem (by decide)⟩
  obtain ⟨-, -, printed, asFound⟩ := summary_rows Console.wide_documented [tagged]
  obtain ⟨shown, read, rows⟩ := asFound found
  exact ⟨shown, read, rows, (printed shown read).1⟩

/-- A call with a tag in a name and a single backslash at the end of its argument. -/
private def bracketed : ApiCall where
  file := "P.cs"
  api := "M[x]"
  endpoint := "C:\\"
  caller := ⟨"Load", "P.cs"⟩
  line := 0
  col := 0
  top := none
  control := none

private theorem style_tag_lost : Console.wide.read "M[x]" = .ok "M" := by
  have parts : Console.pieces "M[x]" = [.text "M".toList, .tag 1 ⟨"x".toList, none⟩] := by cbv
  have shows : Console.shown "M[x]" = .ok "M".toList := by
    rw [Console.shown, parts]
    rfl
  exact Console.wide_read _ shows

private theorem closing_tag_unmatched :
    Console.wide.read "M[/b]" =
      .error "closing tag '[/b]' at position 1 doesn't match any open tag" := by
  have parts : Console.pieces "M[/b]" = [.text "M".toList, .tag 1 ⟨"/b".toList, none⟩] := by cbv
  have fails : Console.shown "M[/b]" = .error (.unmatched ⟨"/b".toList, none⟩ 1) := by
    rw [Console.shown, parts]
    rfl
  exact Console.wide_read_error _ fails

/-- The tag is lost and the backslash is doubled; a closing tag in the name leaves no summary. -/
theorem summary_not_as_found :
    (∃ shown, Console.wide.readTable (table Console.wide [bracketed]) = .ok shown ∧
      shown.rows = [["M", "C:\\\\", "Load", "not found"]]) ∧
    said bracketed = ["M[x]", "C:\\", "Load", "not found"] ∧
    ¬ ∃ shown, Console.wide.readTable (table Console.wide [{ bracketed with api := "M[/b]" }]) =
      .ok shown := by
  have documented := Console.wide_documented
  have doubled : Console.wide.read (Console.wide.escape "C:\\") = .ok "C:\\\\" :=
    Console.wide_read _ (Console.shown_escape_eq "C:\\")
  have load : Console.wide.read "Load" = .ok "Load" :=
    documented.plain _ (Terminal.plain_of_all (by decide))
  have row : CallShown Console.wide bracketed ["M", "C:\\\\", "Load", "not found"] :=
    .cons style_tag_lost (.cons doubled (.cons load (.cons (read_not_found documented) .nil)))
  have rows : List.Forall₂ (CallShown Console.wide) [bracketed] _ := .cons row .nil
  refine ⟨⟨_, (readTable_table_iff documented).2 ⟨_, rows, rfl⟩, rows_of_callShown rows _⟩, rfl, ?_⟩
  rw [exists_readTable_iff documented]
  intro names
  obtain ⟨⟨text, read⟩, -⟩ := names _ List.mem_cons_self
  cases read.symm.trans closing_tag_unmatched

end Report

end CallOrigin
