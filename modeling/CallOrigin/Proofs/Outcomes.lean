import CallOrigin.CommandLine.Run
import CallOrigin.Proofs.Dependence
import CallOrigin.Proofs.Drafts
import CallOrigin.Proofs.SummaryTable

/-! # What comes of a run

A run ends before its report is written, and then leaves everything as it was, or it writes the
report and nothing else. What is shown after that is markup in which the path of the report, and in
the summary the names of methods, are not escaped. So a run that has written its report can still
fail. The markup is at fault only if one of them is more than plain text to the console; the line that
says where the report is has the path as it stands if that is plain and there is room for it.
-/

namespace CallOrigin.CommandLine

open CallOrigin.File

variable {o : Options} {t : Terminal} {calls : List ApiCall}

/-! ## The end of a run -/

/-- A run that comes to its end has shown where the report is. -/
theorem shown_of_closing {output : String} (closed : o.closing t calls = (output, none)) :
    ∃ table line, t.print o.completion = .ok line ∧ output = table ++ line := by
  simp only [Options.closing] at closed
  split at closed
  · cases closed
  next table _ =>
    split at closed
    · cases closed
    next line printed => exact ⟨table, line, printed, (congrArg Prod.fst closed).symm⟩

theorem fault_of_closing {output : String} {fault : ConsoleFault}
    (closed : o.closing t calls = (output, some fault)) :
    t.print o.completion = .error fault ∨
      o.summary = true ∧ Report.printSummary t calls = .error fault := by
  simp only [Options.closing] at closed
  split at closed
  next failed =>
    cases closed
    split at failed
    next asked => exact .inr ⟨asked, failed⟩
    next => cases failed
  next =>
    split at closed
    next failed =>
      cases closed
      exact .inl failed
    next => cases closed

theorem closing_without_summary (noSummary : o.summary = false) :
    o.closing t calls =
      match t.print o.completion with
      | .error fault => ("", some fault)
      | .ok line => (line, none) := by
  simp only [Options.closing, noSummary]
  cases t.print o.completion with
  | error fault => rfl
  | ok line => simp

section
variable (documented : t.Documented)
include documented

theorem read_completion (plain : t.Plain o.reportPath) :
    t.read o.completion = .ok o.completion :=
  documented.plain _ (documented.plain_append "Report saved to" (by decide) plain)

theorem print_completion (plain : t.Plain o.reportPath) :
    t.print o.completion = (t.layText o.completion).mapError .device := by
  rw [Terminal.print, Terminal.readMarkup, read_completion documented plain]
  rfl

/-- The markup that is shown after the report is at fault only if something in it that is not
    escaped is more than plain text. -/
theorem not_plain_of_closing {output message : String}
    (closed : o.closing t calls = (output, some (.markup message))) :
    ¬ t.Plain o.reportPath ∨
      o.summary = true ∧ ∃ c ∈ calls, ¬ t.Plain c.api ∨ ¬ t.Plain c.topOrCaller.name := by
  have device {laid : Except String String} :
      laid.mapError ConsoleFault.device ≠ .error (.markup message) := by
    cases laid <;> simp [Except.mapError]
  rcases fault_of_closing closed with failed | ⟨asked, failed⟩
  · left
    intro plain
    rw [print_completion documented plain] at failed
    exact device failed
  · right
    refine ⟨asked, ?_⟩
    rw [Report.printSummary, Terminal.printTable, bind_eq_error_iff] at failed
    rcases failed with unread | ⟨_, _, unlaid⟩
    · exact Report.names_of_readTable_error documented unread
    · exact absurd unlaid device

end

/-! ## The ways in which a run ends -/

/-- That a report is in its place and everything else is as it was. -/
def Options.Reports (o : Options) (report : String) (fs files : FileSystem) : Prop :=
  ∃ place, fs.replaceable o.reportPath = .ok place ∧
    files.entry? place = some (.file (encode (report.toList.map Char.toNat))) ∧
    ∀ other, other ≠ place → files.entry? other = fs.entry? other

/-- What can come of a run, by how far it gets: to the trace, to the text of the report, to the
    report, to what is shown after that, or to its end. -/
inductive Options.Ends (o : Options) (s : Surroundings) (fs : FileSystem) : Outcome → Prop where
  | untraced {error : TraceError} {output : String} {failure : Option Failure}
      (failed : trace s.parse fs o.root o.config = .error error) :
      o.Ends s fs ⟨1, output, [], failure, fs⟩
  | unspelt {result : TraceResult} {error : Json.DigitError}
      (traced : trace s.parse fs o.root o.config = .ok result)
      (failed : o.report s.digitLimit result.calls = .error error) :
      o.Ends s fs ⟨1, "", o.logged result.events, some (.digits error), fs⟩
  | unwritten {result : TraceResult} {report : String} {refusal : Refusal}
      (traced : trace s.parse fs o.root o.config = .ok result)
      (spelt : o.report s.digitLimit result.calls = .ok report)
      (refused : fs.writeReport s.writeFault o.reportPath (report.toList.map Char.toNat) =
        ⟨fs, some refusal⟩) :
      o.Ends s fs ⟨1, "", o.logged result.events, some (.write refusal), fs⟩
  | unshown {result : TraceResult} {report : String} {files : FileSystem} {output : String}
      {fault : ConsoleFault}
      (traced : trace s.parse fs o.root o.config = .ok result)
      (spelt : o.report s.digitLimit result.calls = .ok report)
      (written : fs.writeReport s.writeFault o.reportPath (report.toList.map Char.toNat) =
        ⟨files, none⟩)
      (closed : o.closing s.terminal result.calls = (output, some fault)) :
      o.Ends s fs ⟨1, output, o.logged result.events, some (.console fault), files⟩
  | completed {result : TraceResult} {report : String} {files : FileSystem} {output : String}
      (traced : trace s.parse fs o.root o.config = .ok result)
      (spelt : o.report s.digitLimit result.calls = .ok report)
      (written : fs.writeReport s.writeFault o.reportPath (report.toList.map Char.toNat) =
        ⟨files, none⟩)
      (closed : o.closing s.terminal result.calls = (output, none)) :
      o.Ends s fs ⟨0, output, o.logged result.events, none, files⟩

section
variable {s : Surroundings} {fs files : FileSystem} {result : TraceResult} {report : String}

theorem Options.run_ends (o : Options) (s : Surroundings) (fs : FileSystem) :
    o.Ends s fs (o.run s fs) := by
  rw [Options.run]
  split
  next traced =>
    split
    · exact .untraced traced
    · exact .untraced traced
  next traced => exact .untraced traced
  next result traced =>
    simp only
    split
    next failed => exact .unspelt traced failed
    next report spelt =>
      rw [Options.deliver]
      split
      next refused =>
        obtain rfl := FileSystem.files_of_refused refused
        exact .unwritten traced spelt refused
      next written =>
        split
        next closed => exact .completed traced spelt written closed
        next closed => exact .unshown traced spelt written closed

theorem Options.status_of_untraced {error : TraceError}
    (failed : trace s.parse fs o.root o.config = .error error) : (o.run s fs).status = 1 := by
  have ends := o.run_ends s fs
  generalize o.run s fs = outcome at ends ⊢
  cases ends with
  | untraced => rfl
  | unspelt => rfl
  | unwritten => rfl
  | unshown => rfl
  | completed traced => cases failed.symm.trans traced

theorem Options.run_of_written {output : String} {fault : Option ConsoleFault}
    (traced : trace s.parse fs o.root o.config = .ok result)
    (spelt : o.report s.digitLimit result.calls = .ok report)
    (written : fs.writeReport s.writeFault o.reportPath (report.toList.map Char.toNat) =
      ⟨files, none⟩)
    (closed : o.closing s.terminal result.calls = (output, fault)) :
    o.run s fs =
      ⟨if fault.isNone then 0 else 1, output, o.logged result.events, fault.map .console, files⟩ := by
  simp only [Options.run, traced, spelt, Options.deliver, written, closed]
  cases fault <;> rfl

theorem reports_of_written
    (written : fs.writeReport s.writeFault o.reportPath (report.toList.map Char.toNat) =
      ⟨files, none⟩) : o.Reports report fs files := by
  obtain ⟨_, _, place, placed, rfl⟩ := FileSystem.writeReport_eq_written_iff.1 written
  have nonempty := FileSystem.ne_nil_of_replaceable placed
  refine ⟨place, placed, ?_, ?_⟩
  · rw [FileSystem.entry?_put_self nonempty]
  · intro other apart
    rw [FileSystem.entry?_put_of_ne nonempty _ apart]

end

/-- A run that has come to its end: the report is written, and the last that is shown is the line
    that says where, in the words of the path if these are plain and there is room for them. -/
structure Options.Completes (o : Options) (s : Surroundings) (calls : List ApiCall)
    (fs : FileSystem) (outcome : Outcome) : Prop where
  status : outcome.status = 0
  reports : ∃ report, o.report s.digitLimit calls = .ok report ∧ o.Reports report fs outcome.files
  shows : ∃ table line, s.terminal.print o.completion = .ok line ∧ outcome.output = table ++ line
  verbatim : s.terminal.Plain o.reportPath →
    (∀ c ∈ o.reportPath.toList, 0x20 ≤ c.toNat ∧ c.toNat < 0x7F) →
    o.completion.length ≤ s.terminal.width →
    ∃ table, outcome.output = table ++ ("Report saved to: " ++ o.reportPath ++ "\n")

/-- A run that has stopped before its report was written, because it could not trace, not spell the
    report or not write it. -/
structure Options.StopsShort (o : Options) (s : Surroundings) (fs : FileSystem)
    (outcome : Outcome) : Prop where
  status : outcome.status = 1
  unchanged : outcome.files = fs
  reason : (∃ error, trace s.parse fs o.root o.config = .error error) ∨
    ∃ result, trace s.parse fs o.root o.config = .ok result ∧
      ((∃ error, o.report s.digitLimit result.calls = .error error) ∨
        ∃ report refusal, o.report s.digitLimit result.calls = .ok report ∧
          fs.writeReport s.writeFault o.reportPath (report.toList.map Char.toNat) =
            ⟨fs, some refusal⟩)

/-- A run that has written its report and then cannot show what it has to. If the markup is at fault,
    then the path of the report, or the name of a method in the summary, is not plain text. -/
structure Options.BreaksOff (o : Options) (s : Surroundings) (calls : List ApiCall)
    (fs : FileSystem) (outcome : Outcome) (fault : ConsoleFault) : Prop where
  status : outcome.status = 1
  failure : outcome.failure = some (.console fault)
  reports : ∃ report, o.report s.digitLimit calls = .ok report ∧ o.Reports report fs outcome.files
  unshown : s.terminal.print o.completion = .error fault ∨
    o.summary = true ∧ Report.printSummary s.terminal calls = .error fault
  markup : ∀ message, fault = .markup message →
    ¬ s.terminal.Plain o.reportPath ∨
      o.summary = true ∧
        ∃ c ∈ calls, ¬ s.terminal.Plain c.api ∨ ¬ s.terminal.Plain c.topOrCaller.name

theorem print_completion_verbatim (documented : t.Documented) (plain : t.Plain o.reportPath)
    (printable : ∀ c ∈ o.reportPath.toList, 0x20 ≤ c.toNat ∧ c.toNat < 0x7F)
    (short : o.completion.length ≤ t.width) {line : String}
    (printed : t.print o.completion = .ok line) :
    line = "Report saved to: " ++ o.reportPath ++ "\n" := by
  have all : ∀ c ∈ o.completion.toList, 0x20 ≤ c.toNat ∧ c.toNat < 0x7F := by
    have front : ∀ c ∈ "Report saved to: ".toList, 0x20 ≤ c.toNat ∧ c.toNat < 0x7F := by simp
    have parts : o.completion.toList = "Report saved to: ".toList ++ o.reportPath.toList :=
      String.toList_append
    rw [parts]
    exact List.forall_mem_append.2 ⟨front, printable⟩
  rw [print_completion documented plain] at printed
  cases laid : t.layText o.completion with
  | error message => rw [laid] at printed; cases printed
  | ok out =>
      rw [laid] at printed
      cases printed
      exact documented.short _ _ all short laid

/-- What the status says of a run whose arguments are understood. With status 0 the report is
    written, and nothing else; with status 1 the trace or the report has failed and nothing has
    changed, unless the console could not show what comes after the report. -/
theorem run_status (s : Surroundings) (documented : s.terminal.Documented) (fs : FileSystem)
    {args : List String} {o : Options} (understood : s.arguments args = .ok o) :
    ∃ outcome, run s fs args = .ok outcome ∧
      ((∃ result, trace s.parse fs o.root o.config = .ok result ∧
          o.Completes s result.calls fs outcome) ∨
        o.StopsShort s fs outcome ∨
        ∃ result fault, trace s.parse fs o.root o.config = .ok result ∧
          o.BreaksOff s result.calls fs outcome fault) := by
  refine ⟨o.run s fs, by rw [run, understood]; rfl, ?_⟩
  have ends := o.run_ends s fs
  generalize o.run s fs = outcome at ends ⊢
  cases ends with
  | untraced failed => exact .inr (.inl ⟨rfl, rfl, .inl ⟨_, failed⟩⟩)
  | unspelt traced failed => exact .inr (.inl ⟨rfl, rfl, .inr ⟨_, traced, .inl ⟨_, failed⟩⟩⟩)
  | unwritten traced spelt refused =>
      exact .inr (.inl ⟨rfl, rfl, .inr ⟨_, traced, .inr ⟨_, _, spelt, refused⟩⟩⟩)
  | unshown traced spelt written closed =>
      refine .inr (.inr ⟨_, _, traced, rfl, rfl, ⟨_, spelt, reports_of_written written⟩,
        fault_of_closing closed, ?_⟩)
      rintro message rfl
      exact not_plain_of_closing documented closed
  | completed traced spelt written closed =>
      obtain ⟨table, line, printed, output⟩ := shown_of_closing closed
      refine .inl ⟨_, traced, rfl, ⟨_, spelt, reports_of_written written⟩,
        ⟨table, line, printed, output⟩, fun plain printable short => ⟨table, output.trans ?_⟩⟩
      exact congrArg (table ++ ·)
        (print_completion_verbatim documented plain printable short printed)

/-! ## Paths with tags -/

/-- An empty root, beside a directory whose name ends in an opening bracket. -/
private def bracketFiles : FileSystem :=
  ⟨[(["proj"], .directory), (["x["], .directory)], []⟩

private def bracketOptions (path : String) : Options :=
  ⟨"proj", some path, Config.default, .text, false, false⟩

private theorem bracketFiles_scan : bracketFiles.scan "proj" = .ok ["proj"] :=
  FileSystem.scan_eq_ok_iff.2 ⟨FileSystem.locate_eq_ok_iff.2
    ⟨by decide, .down (by decide) (by decide) rfl .done⟩, rfl⟩

private theorem bracketFiles_trace :
    ∃ result, trace CSharp.parse bracketFiles "proj" Config.default = .ok result ∧
      result.calls = [] := by
  have nothing (extensions : List String) : bracketFiles.findFiles "proj" extensions = [] :=
    FileSystem.findFiles_of_empty bracketFiles_scan (by decide) extensions
  refine ⟨_, trace_eq_ok_iff.2 ⟨FileSystem.checkRoot_of_scan bracketFiles_scan, rfl, rfl⟩, ?_⟩
  rw [traceChecked_calls, nothing, nothing, List.flatMap_nil, ApiCall.sorted, List.mergeSort_nil,
    List.map_nil]

private theorem bracketFiles_written (codes : List Nat) :
    bracketFiles.writeReport none "out[a].txt" codes =
      ⟨bracketFiles.put ["out[a].txt"] (.file (encode codes)), none⟩ :=
  FileSystem.writeReport_eq_put (FileSystem.directoryAt_eq_ok_iff.2 ⟨.done, rfl⟩) (by decide)
    (by decide)
    (FileSystem.replaceable_iff_names.2 ⟨FileSystem.names_name (by decide) rfl, by decide⟩)

private theorem bracketFiles_written_below (codes : List Nat) :
    bracketFiles.writeReport none "x[/b].txt" codes =
      ⟨bracketFiles.put ["x[", "b].txt"] (.file (encode codes)), none⟩ := by
  have way : bracketFiles.Leads true FileSystem.maxLinks [] ["x["] ["x["] :=
    .down (by decide) (by decide) rfl .done
  have named : bracketFiles.Names "x[/b].txt" ["x[", "b].txt"] :=
    @FileSystem.Names.entry bracketFiles "x[/b].txt" ["x["] "b].txt" ["x["] (by decide) rfl
      (by decide) (by decide) way rfl
  exact FileSystem.writeReport_eq_put (FileSystem.directoryAt_eq_ok_iff.2 ⟨way, rfl⟩) (by decide)
    (by decide) (FileSystem.replaceable_iff_names.2 ⟨named, by decide⟩)

private theorem style_tag_shown :
    Console.wide.print (bracketOptions "out[a].txt").completion = .ok "Report saved to: out.txt\n" := by
  have parts : Console.pieces ("Report saved to: " ++ "out[a].txt") =
      [.text "Report saved to: out".toList, .tag 20 ⟨['a'], none⟩, .text ".txt".toList] := by cbv
  have shows : Console.shown ("Report saved to: " ++ "out[a].txt") =
      .ok "Report saved to: out.txt".toList := by
    rw [Console.shown, parts]
    rfl
  have read : Console.wide.read (bracketOptions "out[a].txt").completion =
      .ok "Report saved to: out.txt" := Console.wide_read _ shows
  rw [Terminal.print, Terminal.readMarkup, read]
  rfl

private theorem closing_tag_shown :
    Console.wide.print (bracketOptions "x[/b].txt").completion =
      .error (.markup "closing tag '[/b]' at position 18 doesn't match any open tag") := by
  have parts : Console.pieces ("Report saved to: " ++ "x[/b].txt") =
      [.text "Report saved to: x".toList, .tag 18 ⟨['/', 'b'], none⟩, .text ".txt".toList] := by cbv
  have fails : Console.shown ("Report saved to: " ++ "x[/b].txt") =
      .error (.unmatched ⟨['/', 'b'], none⟩ 18) := by
    rw [Console.shown, parts]
    rfl
  have read : Console.wide.read (bracketOptions "x[/b].txt").completion =
      .error "closing tag '[/b]' at position 18 doesn't match any open tag" :=
    Console.wide_read_error _ fails
  rw [Terminal.print, Terminal.readMarkup, read]
  rfl

/-- A style tag in the path of the report is missing from the line that says where the report is. -/
theorem run_status_style_tag :
    ∃ outcome,
      run .standard bracketFiles ["proj", "-o", "out[a].txt", "--no-summary"] = .ok outcome ∧
      outcome.status = 0 ∧ outcome.output = "Report saved to: out.txt\n" ∧
      outcome.files.entry? ["out[a].txt"] = some (.file []) := by
  obtain ⟨result, traced, calls⟩ := bracketFiles_trace
  have understood : Surroundings.standard.arguments ["proj", "-o", "out[a].txt", "--no-summary"] =
    .ok (bracketOptions "out[a].txt") := rfl
  have closed : (bracketOptions "out[a].txt").closing Console.wide result.calls =
      ("Report saved to: out.txt\n", none) := by
    rw [closing_without_summary rfl, style_tag_shown]
  have spelt : (bracketOptions "out[a].txt").report standardDigitLimit result.calls = .ok "" := by
    rw [calls]
    rfl
  have ran := @Options.run_of_written (bracketOptions "out[a].txt") .standard _ _ _ _ _ _ traced spelt
    (bracketFiles_written _) closed
  refine ⟨(bracketOptions "out[a].txt").run .standard bracketFiles, ?_, ?_⟩
  · rw [run, understood]
    rfl
  · rw [ran]
    exact ⟨rfl, rfl, rfl⟩

/-- With a closing tag in the path, which here goes through a directory, the report is written and
    the run fails all the same. -/
theorem run_status_closing_tag :
    Surroundings.standard.arguments ["proj", "-o", "x[/b].txt", "--no-summary"] =
      .ok (bracketOptions "x[/b].txt") ∧
    ∃ outcome result message,
      run .standard bracketFiles ["proj", "-o", "x[/b].txt", "--no-summary"] = .ok outcome ∧
      trace CSharp.parse bracketFiles "proj" Config.default = .ok result ∧
      (bracketOptions "x[/b].txt").BreaksOff .standard result.calls bracketFiles outcome
        (.markup message) := by
  have understood : Surroundings.standard.arguments ["proj", "-o", "x[/b].txt", "--no-summary"] =
    .ok (bracketOptions "x[/b].txt") := rfl
  obtain ⟨result, traced, calls⟩ := bracketFiles_trace
  have closed : (bracketOptions "x[/b].txt").closing Console.wide result.calls =
      ("", some (.markup "closing tag '[/b]' at position 18 doesn't match any open tag")) := by
    rw [closing_without_summary rfl, closing_tag_shown]
  have spelt : (bracketOptions "x[/b].txt").report standardDigitLimit result.calls = .ok "" := by
    rw [calls]
    rfl
  have broken := @Options.run_of_written (bracketOptions "x[/b].txt") .standard _ _ _ _ _ _ traced spelt
    (bracketFiles_written_below _) closed
  obtain ⟨outcome, ran, ends⟩ :=
    run_status .standard Console.wide_documented bracketFiles understood
  have same : (bracketOptions "x[/b].txt").run .standard bracketFiles = outcome := by
    rw [run, understood] at ran
    exact Except.ok.inj ran
  rw [broken] at same
  rcases ends with ⟨_, _, completes⟩ | stops | ⟨result, fault, traced, breaks⟩
  · cases (congrArg Outcome.status same).trans completes.status
  · have files := (congrArg Outcome.files same).trans stops.unchanged
    cases congrArg (fun files : FileSystem => files.entry? ["x[", "b].txt"]) files
  · cases (congrArg Outcome.failure same).trans breaks.failure
    exact ⟨understood, outcome, result, _, ran, traced, breaks⟩

end CallOrigin.CommandLine
