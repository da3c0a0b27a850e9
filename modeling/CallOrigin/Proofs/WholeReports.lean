import CallOrigin.Proofs.Drafts

/-! # Reports are whole, or not there

Writing a report either puts all of it into the place that its path names and touches nothing else,
or is refused and touches nothing at all. Where a link is replaced that the path itself goes
through, the report is in its place, but the path does not lead there any more.
-/

namespace CallOrigin.File.FileSystem

variable {fs fs' : FileSystem} {path : String} {place : Location}

/-! ## Places that a path names -/

/-- A path names one place at most. -/
theorem Names.unique {other : Location} (named : fs.Names path place)
    (also : fs.Names path other) : place = other := by
  obtain @⟨above, name, directory, _, parts, _, _, leads, _⟩ := named
  obtain @⟨above', name', directory', _, parts', _, _, leads', _⟩ := also
  obtain ⟨rfl, last⟩ := List.append_inj' (parts.symm.trans parts') rfl
  rw [Except.ok.inj (leads.follow.symm.trans leads'.follow), last]

theorem SameWays.names_iff (same : SameWays fs fs') :
    fs.Names path place ↔ fs'.Names path place := by
  have onward : ∀ {fs fs' : FileSystem}, SameWays fs fs' → fs.Names path place →
      fs'.Names path place := by
    rintro fs fs' same ⟨accepted, parts, ordinary, short, leads, inside⟩
    refine .entry accepted parts ordinary short ?_ (same.directory inside)
    rw [← same.origin]
    exact same.leads leads
  exact ⟨onward same, onward same.symm⟩

section
variable (content : List UInt8)

/-- A file leads nowhere, and neither does a place that is empty. -/
theorem names_put_iff_remove (nonempty : place ≠ []) {other : Location} :
    (fs.put place (.file content)).Names path other ↔ (fs.remove place).Names path other := by
  have same := sameWays_put nonempty (.inl (entry?_remove fs nonempty)) content
  rw [put_remove] at same
  exact same.names_iff.symm

/-- Where a file is put, no path is opened. -/
theorem Names.of_put (nonempty : place ≠ []) {other : Location}
    (named : (fs.put place (.file content)).Names path other) : fs.Names path other := by
  have kept : ∀ at_, ¬ IsEnd (FileSystem.entry? (fs.put place (.file content)) at_) →
      fs.entry? at_ = FileSystem.entry? (fs.put place (.file content)) at_ := by
    intro at_ open_
    rw [entry?_put nonempty] at open_ ⊢
    split at open_
    · exact absurd (.inr ⟨content, rfl⟩) open_
    next elsewhere => rw [if_neg elsewhere]
  obtain ⟨accepted, parts, ordinary, short, leads, inside⟩ := named
  refine .entry accepted parts ordinary short (leads.of_kept kept inside) ?_
  rw [kept _ (inside ▸ not_isEnd_directory), inside]

/-- A path that names a place names it with any file there, unless it goes through the link that was
    there. -/
theorem names_put_or_link (named : fs.Names path place)
    (other : fs.entry? place ≠ some .directory) :
    (fs.put place (.file content)).Names path place ∨
      (∃ target, fs.entry? place = some (.link target)) ∧
        ¬ (fs.remove place).Names path place ∧
        ∀ elsewhere, ¬ (fs.put place (.file content)).Names path elsewhere := by
  by_cases still : (fs.put place (.file content)).Names path place
  · exact .inl still
  right
  refine ⟨?_, ?_, ?_⟩
  · refine Classical.byContradiction fun noLink => ?_
    have placed := replaceable_iff_names.2 ⟨named, other⟩
    have ended := isEnd_of_replaceable placed fun target link => noLink ⟨target, link⟩
    exact still ((sameWays_put named.ne_nil ended content).names_iff.1 named)
  · rwa [← names_put_iff_remove content named.ne_nil]
  · intro elsewhere also
    obtain rfl := named.unique (also.of_put content named.ne_nil)
    exact still also

end

/-! ## Attempts -/

/-- That a report has taken the place that its path names, and nothing else has changed. The report
    is read by its path, unless the path went through the link that the report has replaced: then it
    names nothing now. -/
structure Replaced (fs files : FileSystem) (path : String) (content : List UInt8)
    (place : Location) : Prop where
  named : fs.Names path place
  report : files.entry? place = some (.file content)
  rest : ∀ other, other ≠ place → files.entry? other = fs.entry? other
  current : files.current = fs.current
  readable : files.Names path place ∧ files.read path = .ok content ∨
    (∃ target, fs.entry? place = some (.link target)) ∧ ¬ (fs.remove place).Names path place ∧
      ∀ other, ¬ files.Names path other

theorem replaced_put (named : fs.Names path place) (other : fs.entry? place ≠ some .directory)
    (content : List UInt8) : fs.Replaced (fs.put place (.file content)) path content place := by
  have here : FileSystem.entry? (fs.put place (.file content)) place = some (.file content) := by
    rw [entry?_put_self named.ne_nil]
  refine ⟨named, here, ?_, rfl, ?_⟩
  · intro other apart
    rw [entry?_put_of_ne named.ne_nil _ apart]
  · exact (names_put_or_link content named other).imp_left fun still => ⟨still, still.read here⟩

/-- That an attempt at a report is all or nothing. It succeeds where the writing does not fail, a draft
    can be made and the path names a place that is no directory; the report is then in that place and
    nothing else is changed. Otherwise nothing is changed at all. -/
structure AllOrNothing (fs : FileSystem) (fault : Option WriteFault) (path : String)
    (codes : List Nat) (drafted : Prop) (attempt : Attempt) : Prop where
  written_iff : attempt.refusal = none ↔
    fault = none ∧ drafted ∧ ∃ place, fs.Names path place ∧ fs.entry? place ≠ some .directory
  unchanged : attempt.refusal ≠ none → attempt.files = fs
  replaced : attempt.refusal = none →
    ∃ place, fs.Replaced attempt.files path (encode codes) place

section
variable {fault : Option WriteFault} {codes : List Nat} {drafted : Prop} {attempt : Attempt}

/-- An attempt is all or nothing if it succeeds in putting the report into its place, and in no other
    way. -/
theorem allOrNothing_of_iff
    (written_iff : ∀ files, attempt = ⟨files, none⟩ ↔ fault = none ∧ drafted ∧
      ∃ place, fs.replaceable path = .ok place ∧ files = fs.put place (.file (encode codes)))
    (refused : ∀ {files refusal}, attempt = ⟨files, some refusal⟩ → files = fs) :
    fs.AllOrNothing fault path codes drafted attempt := by
  obtain ⟨files, refusal⟩ := attempt
  cases refusal with
  | some refusal =>
      refine ⟨⟨nofun, ?_⟩, fun _ => refused rfl, nofun⟩
      rintro ⟨works, made, place, named⟩
      have written := (written_iff _).2 ⟨works, made, place, replaceable_iff_names.2 named, rfl⟩
      cases written
  | none =>
      obtain ⟨works, made, place, placed, rfl⟩ := (written_iff files).1 rfl
      obtain ⟨named, other⟩ := replaceable_iff_names.1 placed
      exact ⟨⟨fun _ => ⟨works, made, place, named, other⟩, fun _ => rfl⟩, fun failed => absurd rfl failed,
        fun _ => ⟨place, replaced_put named other _⟩⟩

end

theorem writeThrough_allOrNothing {name : String} (free : fs.Free path name)
    (fault : Option WriteFault) (codes : List Nat) :
    fs.AllOrNothing fault path codes (∃ directory, fs.draftedIn path name = .ok directory)
      (fs.writeThrough fault name path codes) :=
  allOrNothing_of_iff (fun _ => writeThrough_eq_written_iff free) (files_of_refused_through free)

theorem writeReport_allOrNothing (fs : FileSystem) (fault : Option WriteFault) (path : String)
    (codes : List Nat) :
    fs.AllOrNothing fault path codes
      (∃ name directory, fs.draftName? path = some name ∧ fs.draftedIn path name = .ok directory)
      (fs.writeReport fault path codes) :=
  allOrNothing_of_iff (fun _ => writeReport_eq_written_iff) files_of_refused

theorem files_of_written_through {name : String} (free : fs.Free path name)
    {fault : Option WriteFault} {codes : List Nat}
    (written : (fs.writeThrough fault name path codes).refusal = none) :
    ∃ place, fs.replaceable path = .ok place ∧
      (fs.writeThrough fault name path codes).files = fs.put place (.file (encode codes)) := by
  have whole : fs.writeThrough fault name path codes =
      ⟨(fs.writeThrough fault name path codes).files, none⟩ := by rw [← written]
  exact ((writeThrough_eq_written_iff free).1 whole).2.2

/-- What a draft is called makes no difference. -/
theorem writeThrough_congr {name other : String} (free : fs.Free path name)
    (also : fs.Free path other) (fault : Option WriteFault) (codes : List Nat) :
    (fs.writeThrough fault name path codes).files = (fs.writeThrough fault other path codes).files ∧
      ((fs.writeThrough fault name path codes).refusal = none ↔
        (fs.writeThrough fault other path codes).refusal = none) := by
  have whole := writeThrough_allOrNothing free fault codes
  have whole' := writeThrough_allOrNothing also fault codes
  have drafted : (∃ directory, fs.draftedIn path name = .ok directory) ↔
      ∃ directory, fs.draftedIn path other = .ok directory := by
    simp only [draftedIn_eq_ok_iff, accepted_draftPath_congr free.draft also.draft]
  have alike : (fs.writeThrough fault name path codes).refusal = none ↔
      (fs.writeThrough fault other path codes).refusal = none := by
    rw [whole.written_iff, whole'.written_iff, drafted]
  refine ⟨?_, alike⟩
  by_cases written : (fs.writeThrough fault name path codes).refusal = none
  · obtain ⟨place, placed, put⟩ := files_of_written_through free written
    obtain ⟨place', placed', put'⟩ := files_of_written_through also (alike.1 written)
    rw [put, put', Except.ok.inj (placed.symm.trans placed')]
  · rw [whole.unchanged written, whole'.unchanged (mt alike.2 written)]

/-- Writing a report is all or nothing, whether or not the writing fails, and under whatever name it
    is drafted; the name makes no difference. -/
theorem writeReport_all_or_nothing (fs : FileSystem) (fault : Option WriteFault) (path : String)
    (codes : List Nat) :
    fs.AllOrNothing fault path codes
      (∃ name directory, fs.draftName? path = some name ∧ Accepted (fs.draftPath path name) ∧
        fs.directoryAt [] (fs.draftDirectory path) = .ok directory)
      (fs.writeReport fault path codes) ∧
    (∀ name, fs.Free path name →
      fs.AllOrNothing fault path codes
        (∃ directory, Accepted (fs.draftPath path name) ∧
          fs.directoryAt [] (fs.draftDirectory path) = .ok directory)
        (fs.writeThrough fault name path codes)) ∧
    (∀ name, fs.draftName? path = some name → fs.Free path name) ∧
    ∀ name other, fs.Free path name → fs.Free path other →
      (fs.writeThrough fault name path codes).files =
          (fs.writeThrough fault other path codes).files ∧
        ((fs.writeThrough fault name path codes).refusal = none ↔
          (fs.writeThrough fault other path codes).refusal = none) := by
  refine ⟨?_, fun name free => ?_, fun name => free_of_draftName?,
    fun name other free also => writeThrough_congr free also fault codes⟩
  · simpa only [draftedIn_eq_ok_iff] using writeReport_allOrNothing fs fault path codes
  · simpa only [draftedIn_eq_ok_iff] using writeThrough_allOrNothing free fault codes

/-- A directory, and a link to it. -/
private def linkedFiles : FileSystem :=
  ⟨[(["d"], .directory), (["link"], .link "d")], []⟩

private theorem linkedFiles_drafted : linkedFiles.directoryAt [] [] = .ok [] :=
  directoryAt_eq_ok_iff.2 ⟨.done, rfl⟩

private theorem linkedFiles_writeReport {path : String} (beside : linkedFiles.draftDirectory path = [])
    (accepted : Accepted (linkedFiles.draftPath path firstDraftName))
    (named : linkedFiles.Names path ["link"]) (codes : List Nat) :
    linkedFiles.writeReport none path codes =
      ⟨linkedFiles.put ["link"] (.file (encode codes)), none⟩ := by
  have inside : linkedFiles.directoryAt [] (linkedFiles.draftDirectory path) = .ok [] := by
    rw [beside]
    exact linkedFiles_drafted
  exact writeReport_eq_put inside (by decide) accepted
    (replaceable_iff_names.2 ⟨named, by decide⟩)

/-- A report in the place of a link, one that a directory is in the way of, and one that cannot be
    written to its end. -/
theorem writeReport_all_or_nothing_link :
    linkedFiles.Free "link" (draftNameOf "k3_x0a9b".toList) ∧
    (linkedFiles.writeReport none "link" [120]).refusal = none ∧
    (∃ place, linkedFiles.Replaced (linkedFiles.writeReport none "link" [120]).files "link" [120]
      place) ∧
    (linkedFiles.writeThrough none (draftNameOf "k3_x0a9b".toList) "link" [120]).files =
      (linkedFiles.writeThrough none firstDraftName "link" [120]).files ∧
    (linkedFiles.writeReport none "d" [120]).refusal ≠ none ∧
    (linkedFiles.writeReport none "d" [120]).files = linkedFiles ∧
    (linkedFiles.writeReport (some ⟨1, .medium 28 "No space left on device"⟩) "link"
      [120, 120]).files = linkedFiles := by
  have free : linkedFiles.Free "link" (draftNameOf "k3_x0a9b".toList) := by
    have known : "k3_x0a9b".toList.all draftLetters.contains = true := by decide
    refine ⟨.of_letters (by decide) fun c inside =>
      List.contains_iff_mem.1 (List.all_eq_true.1 known c inside), fun directory inside => ?_⟩
    cases inside.symm.trans linkedFiles_drafted
    decide
  have first : linkedFiles.draftName? "link" = some firstDraftName :=
    draftName?_eq_first linkedFiles_drafted (by decide)
  obtain ⟨whole, _, own, alike⟩ := writeReport_all_or_nothing linkedFiles none "link" [120]
  obtain ⟨whole', _⟩ := writeReport_all_or_nothing linkedFiles none "d" [120]
  obtain ⟨broken, _⟩ := writeReport_all_or_nothing linkedFiles
    (some ⟨1, .medium 28 "No space left on device"⟩) "link" [120, 120]
  have written : (linkedFiles.writeReport none "link" [120]).refusal = none := by
    rw [linkedFiles_writeReport rfl (by decide) (names_name (by decide) rfl)]
  have refused : (linkedFiles.writeReport none "d" [120]).refusal ≠ none := by
    intro written
    obtain ⟨_, _, place, also, other⟩ := whole'.written_iff.1 written
    rw [← (names_name (by decide) rfl).unique also] at other
    exact other rfl
  exact ⟨free, written, whole.replaced written, (alike _ _ free (own _ first)).1, refused,
    whole'.unchanged refused, broken.unchanged fun written => nomatch (broken.written_iff.1 written).1⟩

/-- A report that takes the place of a link which its own path goes through is out of reach by that
    path. -/
theorem report_unread_behind_link :
    (linkedFiles.writeReport none "link/../link" [120]).refusal = none ∧
    (linkedFiles.writeReport none "link/../link" [120]).files =
      linkedFiles.put ["link"] (.file [120]) ∧
    ∀ content, (linkedFiles.writeReport none "link/../link" [120]).files.read "link/../link" ≠
      .ok content := by
  have down : linkedFiles.Leads true 39 [] ["d", ".."] [] :=
    .down (by decide) (by decide) rfl (.up .done)
  have leads : linkedFiles.Leads true maxLinks [] ["link", ".."] [] :=
    .through (by decide) (by decide) rfl (.inr rfl) down
  have named : linkedFiles.Names "link/../link" ["link"] :=
    @Names.entry linkedFiles "link/../link" ["link", ".."] "link" [] (by decide) rfl (by decide)
      (by decide) leads rfl
  rw [linkedFiles_writeReport rfl (by decide) named]
  refine ⟨rfl, rfl, ?_⟩
  intro content reads
  obtain ⟨_, located, _⟩ := read_eq_ok_iff.1 reads
  obtain ⟨_, onward⟩ := locate_eq_ok_iff.1 located
  -- The first name is that of the report now, where a way can only end.
  cases onward.nothing_past_end (by decide) (.inr ⟨[120], rfl⟩)

end CallOrigin.File.FileSystem
