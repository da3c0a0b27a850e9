import CallOrigin.Proofs.Outcomes
import CallOrigin.Proofs.PassedLinks

/-! # Running again

A report may lie inside the root that is traced, so a second run looks at a file system that the first
has changed. It finds and reads what the first found and read, as long as nothing that it looks at is
the report, and no way that it goes passes a link which the report has replaced: then it writes the
same report into the same place, and nothing changes any more.
-/

namespace CallOrigin.CommandLine

open CallOrigin.File

/-- That a run does not come across the report at its place: the report does not have the name of a
    source or of a page, and no link leads to it. Where it takes the place of a link, no way that a
    run goes passes this link: none to the root or by a link with the name of a source or a page,
    none to the directories of the report and of its draft. -/
structure Options.Apart (o : Options) (fs : FileSystem) (place : Location) : Prop where
  unlisted : ∀ name, (names o.reportPath).getLast? = some name →
    FileSystem.endsInOne (o.config.sourceExtensions ++ o.config.markupExtensions) name = false
  unlinked : fs.Unlinked place
  search : fs.SearchedApart (o.config.sourceExtensions ++ o.config.markupExtensions) o.root place
  report : ∀ above name, names o.reportPath = above ++ [name] →
    ¬ fs.Passes place FileSystem.maxLinks (fs.origin o.reportPath) above
  draft : ¬ fs.Passes place FileSystem.maxLinks [] (fs.draftDirectory o.reportPath)

variable {o : Options} {fs : FileSystem} {place : Location}

/-- A report that takes the place of no link cuts off no way. -/
theorem Options.apart_of_no_link
    (unlisted : ∀ name, (names o.reportPath).getLast? = some name →
      FileSystem.endsInOne (o.config.sourceExtensions ++ o.config.markupExtensions) name = false)
    (unlinked : fs.Unlinked place) (noLink : ∀ target, fs.entry? place ≠ some (.link target)) :
    o.Apart fs place := by
  have unpassed {links : Nat} {directory : Location} {path : List String} :
      ¬ fs.Passes place links directory path := fun passes =>
    passes.exists_link.elim noLink
  exact ⟨unlisted, unlinked, ⟨unpassed, fun _ _ => unpassed⟩, fun _ _ _ => unpassed, unpassed⟩

section
variable (placed : fs.replaceable o.reportPath = .ok place) (apart : o.Apart fs place)
include placed apart

/-- A trace finds the same calls when the report has been written. -/
theorem trace_put_report {parse : Parser} (content : List UInt8) {result : TraceResult}
    (traced : trace parse fs o.root o.config = .ok result) :
    ∃ again, trace parse (fs.put place (.file content)) o.root o.config = .ok again ∧
      again.calls = result.calls := by
  have nonempty := FileSystem.ne_nil_of_replaceable placed
  have noDirectory := (FileSystem.replaceable_iff_names.1 placed).2
  have search {extensions : List String}
      (some_ : extensions ⊆ o.config.sourceExtensions ++ o.config.markupExtensions) :
      fs.SearchedApart extensions o.root place ∧
        ∀ directory name, directory ++ [name] = place →
          ¬ FileSystem.EndsLikeOne extensions name := by
    refine ⟨apart.search.mono some_, fun directory name here ends => ?_⟩
    have last : (names o.reportPath).getLast? = some name := by
      rw [← FileSystem.getLast?_of_replaceable placed, ← here, List.getLast?_concat]
    exact absurd (FileSystem.endsInOne_iff.2 (ends.mono some_))
      (Bool.eq_false_iff.1 (apart.unlisted name last))
  obtain ⟨scannable, workers, rfl⟩ := trace_eq_ok_iff.1 traced
  refine ⟨_, trace_eq_ok_iff.2 ⟨?_, workers, rfl⟩, ?_⟩
  · have same := FileSystem.isDirectory_put nonempty noDirectory content apart.search.way
    rwa [FileSystem.checkRoot, same]
  · have sources := search (List.subset_append_left _ _)
    have pages := search (List.subset_append_right _ _)
    apply traceChecked_calls_congr parse
    · exact FileSystem.findFiles_put nonempty noDirectory sources.1 sources.2 content
    · exact FileSystem.findFiles_put nonempty noDirectory pages.1 pages.2 content
    · intro path found text
      rw [FileSystem.readText_eq_ok_iff, FileSystem.readText_eq_ok_iff]
      refine exists_congr fun bytes => and_congr_left' ?_
      rcases List.mem_append.1 found with source | page
      · exact (FileSystem.read_put_iff nonempty noDirectory sources.1 sources.2 content apart.unlinked
          source).symm
      · exact (FileSystem.read_put_iff nonempty noDirectory pages.1 pages.2 content apart.unlinked
          page).symm

theorem replaceable_put (content : List UInt8) :
    (fs.put place (.file content)).replaceable o.reportPath = .ok place := by
  have nonempty := FileSystem.ne_nil_of_replaceable placed
  have noDirectory := (FileSystem.replaceable_iff_names.1 placed).2
  obtain ⟨accepted, above, name, at_, last, inside, short, other, rfl⟩ :=
    FileSystem.replaceable_eq_ok_iff.1 placed
  refine FileSystem.replaceable_eq_ok_iff.2 ⟨accepted, above, name, at_, last, ?_, short, ?_, rfl⟩
  · have unpassed := apart.report above name (LastName.names_of_ordinary last).1
    exact (FileSystem.directoryAt_put_iff nonempty noDirectory content unpassed).2 inside
  · rwa [ne_eq, FileSystem.directory_put_iff nonempty content noDirectory]

/-- A report can be written once more, as long as there is a name left for its draft. -/
theorem writeReport_again {fault : Option WriteFault} {codes : List Nat} {files : FileSystem}
    (written : fs.writeReport fault o.reportPath codes = ⟨files, none⟩)
    (drafts : files.draftName? o.reportPath ≠ none) :
    files.writeReport fault o.reportPath codes = ⟨files, none⟩ := by
  have nonempty := FileSystem.ne_nil_of_replaceable placed
  have noDirectory := (FileSystem.replaceable_iff_names.1 placed).2
  rw [FileSystem.writeReport_eq_written_iff] at written ⊢
  obtain ⟨faultless, ⟨name, directory, named, drafted⟩, there, found, rfl⟩ := written
  cases placed.symm.trans found
  obtain ⟨other, renamed⟩ := Option.ne_none_iff_exists'.1 drafts
  obtain ⟨accepted, inside⟩ := FileSystem.draftedIn_eq_ok_iff.1 drafted
  refine ⟨faultless, ⟨other, directory, renamed, FileSystem.draftedIn_eq_ok_iff.2 ⟨?_, ?_⟩⟩, place,
    replaceable_put placed apart _, (FileSystem.put_put ..).symm⟩
  · exact (FileSystem.accepted_draftPath_congr (FileSystem.free_of_draftName? named).draft
      (FileSystem.free_of_draftName? renamed).draft).1 accepted
  · exact (FileSystem.directoryAt_put_iff nonempty noDirectory _ apart.draft).2 inside

end

/-- A run that has succeeded can be repeated: it succeeds again, shows the same, and writes the same
    report into the same place, so that the file system stays as the first run left it. -/
theorem run_again (s : Surroundings) {args : List String} (understood : s.arguments args = .ok o)
    (placed : fs.replaceable o.reportPath = .ok place) (apart : o.Apart fs place) {first : Outcome}
    (ran : run s fs args = .ok first) (succeeded : first.status = 0)
    (drafts : first.files.draftName? o.reportPath ≠ none) :
    ∃ second, run s first.files args = .ok second ∧ second.status = 0 ∧
      second.output = first.output ∧ second.files = first.files ∧
      ∃ result again report, trace s.parse fs o.root o.config = .ok result ∧
        trace s.parse first.files o.root o.config = .ok again ∧
        o.report s.digitLimit result.calls = .ok report ∧
        o.report s.digitLimit again.calls = .ok report ∧
        first.files.read o.reportPath = .ok (encode (report.toList.map Char.toNat)) := by
  rw [run, understood] at ran
  have outcome : o.run s fs = first := Except.ok.inj ran
  have ends := o.run_ends s fs
  rw [outcome] at ends
  cases ends with
  | untraced => cases succeeded
  | unspelt => cases succeeded
  | unwritten => cases succeeded
  | unshown => cases succeeded
  | @completed result report files output traced spelt written closed =>
      have rewritten := writeReport_again placed apart written drafts
      obtain ⟨_, _, there, found, rfl⟩ := FileSystem.writeReport_eq_written_iff.1 written
      cases placed.symm.trans found
      obtain ⟨again, retraced, calls⟩ := trace_put_report placed apart _ traced
      have named := (FileSystem.replaceable_iff_names.1 (replaceable_put placed apart
        (encode (report.toList.map Char.toNat)))).1
      have readable := named.read (by
        rw [FileSystem.entry?_put_self (FileSystem.ne_nil_of_replaceable placed)])
      rw [← calls] at spelt closed
      have rerun := Options.run_of_written retraced spelt rewritten closed
      refine ⟨⟨0, output, o.logged again.events, none, _⟩, ?_, rfl, rfl, rfl, result, again, report,
        traced, retraced, calls ▸ spelt, spelt, readable⟩
      rw [run, understood]
      exact congrArg Except.ok rerun

/-- One source in a root that is the current directory, and a link in the place of the report, which
    no way passes. -/
private def sourceFiles : FileSystem :=
  ⟨[(["w"], .directory), (["w", "a.cs"], .file (Utf8.encode "void M(){A();}")),
    (["w", "ApiTraceReport.txt"], .link "old.txt")], ["w"]⟩

private def sourceOptions : Options :=
  ⟨".", none, { Config.default with apis := ["A"] }, .text, false, false⟩

private theorem sourceFiles_link {directory : Location} {name target : String}
    (link : sourceFiles.entry? (directory ++ [name]) = some (.link target)) :
    directory = ["w"] ∧ name = "ApiTraceReport.txt" := by
  have inside := FileSystem.mem_entries_of_link link
  simp only [sourceFiles, List.mem_cons, Prod.mk.injEq, reduceCtorEq, and_false, false_or,
    List.not_mem_nil, or_false] at inside
  have parts : directory ++ [name] = ["w"] ++ ["ApiTraceReport.txt"] := inside.1
  simpa using List.append_inj' parts rfl

private theorem sourceFiles_named :
    sourceFiles.Names sourceOptions.reportPath ["w", "ApiTraceReport.txt"] :=
  @FileSystem.Names.entry sourceFiles sourceOptions.reportPath ["."] "ApiTraceReport.txt" ["w"]
    (by decide) rfl (by decide) (by decide) (.stay (.inr rfl) .done) rfl

private theorem sourceFiles_way {place : Location} :
    ¬ sourceFiles.Passes place FileSystem.maxLinks ["w"] ["."] :=
  fun passes => FileSystem.not_passes_nil (passes.of_stay (.inr rfl))

private theorem sourceOptions_apart :
    sourceOptions.Apart sourceFiles ["w", "ApiTraceReport.txt"] where
  unlisted := by
    intro name last
    cases last
    rfl
  unlinked := by
    intro directory name target link followed
    obtain ⟨rfl, rfl⟩ := sourceFiles_link link
    have leads : sourceFiles.Leads true FileSystem.maxLinks ["w"] ["ApiTraceReport.txt"]
        ["w", "old.txt"] :=
      .through (by decide) (by decide) rfl (.inr rfl) (.ends (by decide) (by decide) (.inl rfl))
    exact absurd (Except.ok.inj (followed.symm.trans leads.follow)) (by decide)
  search := by
    refine ⟨sourceFiles_way, ?_⟩
    rintro path ⟨directory, there, above, name, target, _, _, _, ends, link, _⟩
    obtain ⟨rfl, rfl⟩ := sourceFiles_link link
    cases FileSystem.endsInOne_iff.2 ends
  report := by
    intro above name parts
    have own : ["."] ++ ["ApiTraceReport.txt"] = above ++ [name] := parts
    obtain ⟨rfl, -⟩ := List.append_inj' own rfl
    exact sourceFiles_way
  draft := fun passes => FileSystem.not_passes_nil (passes.of_down (by decide) rfl)

private theorem sourceFiles_placed :
    sourceFiles.replaceable sourceOptions.reportPath = .ok ["w", "ApiTraceReport.txt"] :=
  FileSystem.replaceable_iff_names.2 ⟨sourceFiles_named, by decide⟩

private theorem sourceFiles_draftDirectory :
    sourceFiles.directoryAt [] (sourceFiles.draftDirectory sourceOptions.reportPath) = .ok ["w"] :=
  FileSystem.directoryAt_eq_ok_iff.2 ⟨.down (by decide) (by decide) rfl .done, rfl⟩

private theorem sourceFiles_written (codes : List Nat) :
    sourceFiles.writeReport none sourceOptions.reportPath codes =
      ⟨sourceFiles.put ["w", "ApiTraceReport.txt"] (.file (encode codes)), none⟩ :=
  FileSystem.writeReport_eq_put sourceFiles_draftDirectory (by decide) (by decide) sourceFiles_placed

private theorem sourceFiles_drafts (content : List UInt8) :
    (sourceFiles.put ["w", "ApiTraceReport.txt"] (.file content)).draftName?
      sourceOptions.reportPath = some FileSystem.firstDraftName := by
  refine FileSystem.draftName?_eq_first ((FileSystem.directoryAt_put_iff (by decide) (by decide) _
    sourceOptions_apart.draft).2 sourceFiles_draftDirectory) ?_
  rw [FileSystem.entry?_put_of_ne (by decide) _ (by decide)]
  decide

/-- What is shown last on a wide console if no summary is asked for. -/
private theorem closing_wide (noSummary : o.summary = false)
    (plain : Console.wide.Plain o.reportPath) (calls : List ApiCall) :
    o.closing Console.wide calls = (o.completion ++ "\n", none) := by
  rw [closing_without_summary noSummary, print_completion Console.wide_documented plain]
  rfl

/-- The report lies in the root, beside the source, in the place of a link. -/
theorem run_again_inside_root :
    sourceOptions.Apart sourceFiles ["w", "ApiTraceReport.txt"] ∧
    sourceFiles.entry? ["w", "ApiTraceReport.txt"] = some (.link "old.txt") ∧
    ∃ first second,
      run .standard sourceFiles ["--no-summary", "-m", "A", "."] = .ok first ∧
      first.status = 0 ∧ first.files ≠ sourceFiles ∧
      run .standard first.files ["--no-summary", "-m", "A", "."] = .ok second ∧
      second.status = 0 ∧ second.output = first.output ∧ second.files = first.files := by
  have understood : Surroundings.standard.arguments ["--no-summary", "-m", "A", "."] =
      .ok sourceOptions := rfl
  have traced : trace CSharp.parse sourceFiles sourceOptions.root sourceOptions.config =
      .ok (traceChecked CSharp.parse sourceFiles sourceOptions.root sourceOptions.config) :=
    trace_eq_ok_iff.2 ⟨FileSystem.checkRoot_of_scan (FileSystem.scan_here rfl), rfl, rfl⟩
  have first := @Options.run_of_written sourceOptions .standard _ _ _ _ _ _ traced rfl
    (sourceFiles_written _) (closing_wide rfl (Terminal.plain_of_all (by decide)) _)
  have ran : run .standard sourceFiles ["--no-summary", "-m", "A", "."] =
      .ok (sourceOptions.run .standard sourceFiles) := by
    rw [run, understood]
    rfl
  rw [first] at ran
  obtain ⟨second, again, status, output, files, _⟩ :=
    run_again .standard understood sourceFiles_placed sourceOptions_apart ran rfl
      (by simp [sourceFiles_drafts])
  refine ⟨sourceOptions_apart, rfl, _, second, ran, rfl, ?_, again, status, output, files⟩
  intro unchanged
  cases congrArg (fun files : FileSystem => files.entry? ["w", "ApiTraceReport.txt"]) unchanged

/-! ## A report in the place of a link -/

/-- A link to a directory. -/
private def linkFiles : FileSystem :=
  ⟨[(["real"], .directory), (["link"], .link "real")], []⟩

private def linkOptions : Options :=
  ⟨"link", some "link", Config.default, .text, false, false⟩

private theorem linkFiles_leads :
    linkFiles.Leads true FileSystem.maxLinks [] ["link"] ["real"] := by
  have onward : linkFiles.Leads true 39 [] ["real"] ["real"] :=
    .down (by decide) (by decide) rfl .done
  exact .through (by decide) (by decide) rfl (.inr rfl) onward

private theorem linkFiles_unlinked : linkFiles.Unlinked ["link"] := by
  intro directory name target link followed
  have inside := FileSystem.mem_entries_of_link link
  obtain ⟨⟨rfl, rfl⟩, -⟩ : (directory = [] ∧ name = "link") ∧ target = "real" := by
    simpa [linkFiles, List.append_eq_singleton_iff] using inside
  exact absurd (Except.ok.inj (linkFiles_leads.follow.symm.trans followed)) (by decide)

private theorem linkFiles_replaceable : linkFiles.replaceable "link" = .ok ["link"] :=
  FileSystem.replaceable_iff_names.2 ⟨FileSystem.names_name (by decide) rfl, by decide⟩

private theorem linkFiles_written (codes : List Nat) :
    linkFiles.writeReport none "link" codes =
      ⟨linkFiles.put ["link"] (.file (encode codes)), none⟩ :=
  FileSystem.writeReport_eq_put (FileSystem.directoryAt_eq_ok_iff.2 ⟨.done, rfl⟩) (by decide)
    (by decide) linkFiles_replaceable

private theorem linkFiles_put_checkRoot (content : List UInt8) :
    (linkFiles.put ["link"] (.file content)).checkRoot "link" none =
      .error ⟨"link", "not a directory"⟩ := by
  have file : FileSystem.entry? (linkFiles.put ["link"] (.file content)) ["link"] =
      some (.file content) := rfl
  have located : (linkFiles.put ["link"] (.file content)).locate "link" = .ok ["link"] :=
    FileSystem.locate_name (by decide) (.inr ⟨content, file⟩)
  have noDirectory : (linkFiles.put ["link"] (.file content)).isDirectory "link" = false := by
    rw [Bool.eq_false_iff, ne_eq, FileSystem.isDirectory_iff]
    rintro ⟨there, scanned⟩
    obtain ⟨also, directory⟩ := FileSystem.scan_eq_ok_iff.1 scanned
    cases located.symm.trans also
    cases file.symm.trans directory
  simp [FileSystem.checkRoot, noDirectory]

/-- A report that takes the place of the link through which its own root is reached cannot be
    written again, though no link leads to it and it is not looked for. -/
theorem run_again_report_replaces_link :
    Surroundings.standard.arguments ["link", "-o", "link", "--no-summary"] = .ok linkOptions ∧
    FileSystem.endsInOne (Config.default.sourceExtensions ++ Config.default.markupExtensions) "link" =
      false ∧
    linkFiles.replaceable linkOptions.reportPath = .ok ["link"] ∧ linkFiles.Unlinked ["link"] ∧
    ∃ first second,
      run .standard linkFiles ["link", "-o", "link", "--no-summary"] = .ok first ∧
      first.status = 0 ∧
      run .standard first.files ["link", "-o", "link", "--no-summary"] = .ok second ∧
      second.status = 1 := by
  have understood : Surroundings.standard.arguments ["link", "-o", "link", "--no-summary"] =
      .ok linkOptions := rfl
  have scanned : linkFiles.scan "link" = .ok ["real"] :=
    FileSystem.scan_eq_ok_iff.2
      ⟨FileSystem.locate_eq_ok_iff.2 ⟨by decide, linkFiles_leads⟩, rfl⟩
  have traced : trace CSharp.parse linkFiles linkOptions.root linkOptions.config =
      .ok (traceChecked CSharp.parse linkFiles linkOptions.root linkOptions.config) :=
    trace_eq_ok_iff.2 ⟨FileSystem.checkRoot_of_scan scanned, rfl, rfl⟩
  have first := @Options.run_of_written linkOptions .standard _ _ _ _ _ _ traced rfl
    (linkFiles_written _) (closing_wide rfl (Terminal.plain_of_all (by decide)) _)
  have ran (fs : FileSystem) : run .standard fs ["link", "-o", "link", "--no-summary"] =
      .ok (linkOptions.run .standard fs) := by
    rw [run, understood]
    rfl
  have ranFirst := ran linkFiles
  rw [first] at ranFirst
  refine ⟨understood, rfl, linkFiles_replaceable, linkFiles_unlinked, _, _, ranFirst, rfl, ran _, ?_⟩
  have failed (content : List UInt8) : trace CSharp.parse (linkFiles.put ["link"] (.file content))
      linkOptions.root linkOptions.config = .error (.root ⟨"link", "not a directory"⟩) := by
    have root : linkOptions.root = "link" := rfl
    rw [trace, root, linkFiles_put_checkRoot]
  exact Options.status_of_untraced (s := .standard) (failed _)

end CallOrigin.CommandLine
