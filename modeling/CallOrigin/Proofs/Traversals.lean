import CallOrigin.Proofs.Searches

/-! # What a search finds

A search is meant to find what lies in the directories that are reached from a root and is no
directory itself. Whether a link leads to a directory is a matter of the link, but a search asks the
system for the path of the link, which can be too long, or have used up the links that may be followed
before it comes there. Where the root is reached without links, what is meant and what is found are
the same up to the length of paths.
-/

namespace CallOrigin.File

namespace FileSystem

variable {fs : FileSystem} {root path name above : String} {extensions : List String}
  {directory there : Location}

/-! ## What is meant to be found -/

/-- That a name in a directory stands for something that is no directory: a file, or a link that
    does not lead to a directory, be it that it leads to a file or nowhere. -/
def NonDirectory (fs : FileSystem) (directory : Location) (name : String) : Prop :=
  (∃ content, fs.entry? (directory ++ [name]) = some (.file content)) ∨
    (∃ target, fs.entry? (directory ++ [name]) = some (.link target)) ∧
      ¬ ∃ there, fs.Leads true maxLinks directory [name] there ∧ fs.entry? there = some .directory

/-- That a path is that of something that is no directory, has one of the names looked for, and lies
    in a directory that is reached. -/
def LiesBelow (fs : FileSystem) (extensions : List String) (directory : Location)
    (root path : String) : Prop :=
  ∃ there above name, fs.Reaches directory root there above ∧ EntryName name ∧
    fs.NonDirectory there name ∧ EndsLikeOne extensions name ∧ path = joinPath above name

/-! ## What is found of it -/

/-- The way of a path that is put together goes on from its directory by the name. -/
theorem leads_name_of_joinPath (scanned : fs.scan path = .ok directory) (entry : EntryName name)
    (leads : fs.Leads true maxLinks (fs.origin (joinPath path name)) (names (joinPath path name))
      there) :
    fs.Leads true maxLinks directory [name] there := by
  obtain ⟨accepted, leadsAbove, inside⟩ := leads_of_scan scanned
  obtain ⟨way, leadsAbove, joined⟩ := exists_way accepted.nonempty leadsAbove
  rw [(joined entry).1, (joined entry).2] at leads
  obtain ⟨fewer, less, onward⟩ := leadsAbove.of_append inside leads
  exact onward.more_links less

/-- What is no directory counts as a file by every path for it. -/
theorem NonDirectory.countsAsFile (here : fs.NonDirectory directory name)
    (scanned : fs.scan path = .ok directory) (entry : EntryName name) :
    fs.CountsAsFile path directory name := by
  rcases here with file | ⟨link, elsewhere⟩
  · exact .inl file
  · refine .inr ⟨link, ?_⟩
    rw [← Bool.not_eq_true, isDirectory_iff]
    rintro ⟨there, again⟩
    obtain ⟨_, leads, inside⟩ := leads_of_scan again
    exact elsewhere ⟨there, leads_name_of_joinPath scanned entry leads, inside⟩

/-- What lies below a root in a directory whose path is short enough is found. -/
theorem LiesBelow.finds (lies : fs.LiesBelow extensions directory root path)
    (scanned : fs.scan root = .ok directory) (bounded : path.utf8ByteSize < maxPath) :
    fs.Finds extensions directory root path := by
  obtain ⟨there, above, name, reaches, entry, here, ends, rfl⟩ := lies
  have short := Nat.lt_trans (size_lt_joinPath entry above) bounded
  exact ⟨there, above, name, reaches, short, entry,
    here.countsAsFile (reaches.scan scanned short) entry, ends, rfl⟩

/-- Where the root is reached without links, so is each directory below it. -/
theorem Reaches.leads {links : Nat} (reaches : fs.Reaches directory root there above)
    (nonempty : root ≠ "") (leads : fs.Leads true links (fs.origin root) (names root) directory)
    (inside : fs.entry? directory = some .directory) :
    fs.Leads true links (fs.origin above) (names above) there := by
  induction reaches with
  | here => exact leads
  | @down directory _ root _ name entry below _ ih =>
      have step : fs.Leads true 0 directory [name] (directory ++ [name]) :=
        .down entry.toOrdinary entry.short below .done
      refine ih ?_ (leads_joinPath nonempty leads inside entry step) below
      intro empty
      have longer := size_lt_joinPath entry root
      simp [empty] at longer

theorem CountsAsFile.nonDirectory (counts : fs.CountsAsFile path directory name)
    (scanned : fs.scan path = .ok directory) (entry : EntryName name)
    (unlinked : fs.Leads true 0 (fs.origin path) (names path) directory)
    (bounded : (joinPath path name).utf8ByteSize < maxPath) : fs.NonDirectory directory name := by
  rcases counts with file | ⟨link, elsewhere⟩
  · exact .inl file
  · refine .inr ⟨link, ?_⟩
    rintro ⟨there, leads, below⟩
    obtain ⟨accepted, _, inside⟩ := leads_of_scan scanned
    have leads := leads_joinPath accepted.nonempty unlinked inside entry leads
    rw [Nat.zero_add] at leads
    have again : fs.scan (joinPath path name) = .ok there := by
      rw [scan_eq_ok_iff, locate_eq_ok_iff, accepted_joinPath_iff accepted entry]
      exact ⟨⟨bounded, leads⟩, below⟩
    rw [isDirectory_iff.2 ⟨there, again⟩] at elsewhere
    cases elsewhere

/-- Below a root that is reached without links, what is found is what lies there, as far as paths are
    short enough. -/
theorem finds_iff_liesBelow (scanned : fs.scan root = .ok directory)
    (unlinked : fs.Leads true 0 (fs.origin root) (names root) directory)
    (bounded : path.utf8ByteSize < maxPath) :
    fs.Finds extensions directory root path ↔ fs.LiesBelow extensions directory root path := by
  refine ⟨?_, fun lies => lies.finds scanned bounded⟩
  rintro ⟨there, above, name, reaches, short, entry, counts, ends, rfl⟩
  obtain ⟨accepted, _, inside⟩ := leads_of_scan scanned
  have unlinked := reaches.leads accepted.nonempty unlinked inside
  exact ⟨there, above, name, reaches, entry,
    counts.nonDirectory (reaches.scan scanned short) entry unlinked bounded, ends, rfl⟩

/-! ## What does not matter to a search -/

/-- A search depends on its extensions as a set. -/
theorem findFiles_congr_extensions {others : List String}
    (same : ∀ extension, extension ∈ others ↔ extension ∈ extensions) :
    fs.findFiles root others = fs.findFiles root extensions := by
  refine eq_of_increasing (findFiles_increasing ..) (findFiles_increasing ..) fun path => ?_
  simp only [mem_findFiles_iff, Finds, EndsLikeOne, same]

/-- In whatever order directories are listed, sorting gives the same. -/
theorem mergeSort_walk {listed : Location → List String} (lists : fs.Lists listed) :
    (fs.walk listed extensions root).mergeSort = fs.findFiles root extensions := by
  refine eq_of_increasing (mergeSort_increasing (nodup_walk lists ..)) (findFiles_increasing ..)
    fun path => ?_
  rw [List.mem_mergeSort, mem_walk_iff lists, mem_findFiles_iff]

theorem lookup_perm {entries others : List (Location × Entry)} (same : entries.Perm others)
    (unique : (entries.map (·.1)).Nodup) (at_ : Location) :
    entries.lookup at_ = others.lookup at_ := by
  induction same with
  | nil => rfl
  | cons entry _ ih =>
      obtain ⟨key, e⟩ := entry
      rw [List.map_cons, List.nodup_cons] at unique
      rw [List.lookup_cons, List.lookup_cons, ih unique.2]
  | swap first second rest =>
      obtain ⟨key, e⟩ := first
      obtain ⟨other, e'⟩ := second
      have apart : other ≠ key := by
        rintro rfl
        simp at unique
      simp only [List.lookup_cons]
      by_cases here : at_ = key
      · subst here
        simp [beq_eq_false_iff_ne.mpr apart.symm]
      · simp [beq_eq_false_iff_ne.mpr here]
  | trans first _ ih ih' =>
      exact (ih unique).trans (ih' ((first.map _).nodup_iff.mp unique))

theorem mem_findFiles_of_same_entries {fs' : FileSystem} (current : fs.current = fs'.current)
    (same : ∀ at_, fs.entry? at_ = fs'.entry? at_) (found : path ∈ fs.findFiles root extensions) :
    path ∈ fs'.findFiles root extensions := by
  have ways : SameWays fs fs' := ⟨current, fun at_ => .inl (same at_)⟩
  obtain ⟨directory, scanned, finds⟩ := mem_findFiles_iff.1 found
  refine mem_findFiles_iff.2 ⟨directory, ways.scan_iff.1 scanned, ?_⟩
  refine finds.imp (fun _ => ways.directory) fun {there above name} _ _ _ counts => ?_
  simpa only [CountsAsFile, same, ways.isDirectory] using counts

/-- In what order the entries come makes no difference to a search. -/
theorem findFiles_perm {entries : List (Location × Entry)} (same : entries.Perm fs.entries)
    (unique : (fs.entries.map (·.1)).Nodup) :
    findFiles ⟨entries, fs.current⟩ root extensions = fs.findFiles root extensions := by
  have entry (at_ : Location) :
      fs.entry? at_ = FileSystem.entry? ⟨entries, fs.current⟩ at_ := by
    rw [FileSystem.entry?, FileSystem.entry?, lookup_perm same.symm unique]
  refine eq_of_increasing (findFiles_increasing ..) (findFiles_increasing ..)
    fun path => ⟨?_, ?_⟩
  · exact mem_findFiles_of_same_entries rfl fun at_ => (entry at_).symm
  · exact mem_findFiles_of_same_entries rfl entry

/-- A search gives a strictly increasing list. In it are the paths of just those entries that count as
    files and have one of the names looked for, in a directory that is reached from the root through
    directories and whose path is short enough to be listed. Below a root that is reached without
    links these are, as far as their own paths are short enough, the entries that are no directories:
    files, links to files and links that lead nowhere, but no links to directories. Neither the order
    in which each directory is listed matters, nor that of the entries, nor that of the extensions or
    how often one of these is given. -/
theorem findFiles_exact (fs : FileSystem) (root : String) (extensions : List String) :
    (fs.findFiles root extensions).Pairwise (· < ·) ∧
    (∀ path, path ∈ fs.findFiles root extensions ↔
      ∃ directory, fs.scan root = .ok directory ∧ fs.Finds extensions directory root path) ∧
    (∀ directory path, fs.scan root = .ok directory →
      fs.Leads true 0 (fs.origin root) (names root) directory → path.utf8ByteSize < maxPath →
      (path ∈ fs.findFiles root extensions ↔ fs.LiesBelow extensions directory root path)) ∧
    (∀ listed, fs.Lists listed →
      (fs.walk listed extensions root).mergeSort = fs.findFiles root extensions) ∧
    (∀ entries, entries.Perm fs.entries → (fs.entries.map (·.1)).Nodup →
      findFiles ⟨entries, fs.current⟩ root extensions = fs.findFiles root extensions) ∧
    (∀ others, (∀ extension, extension ∈ others ↔ extension ∈ extensions) →
      fs.findFiles root others = fs.findFiles root extensions) := by
  refine ⟨findFiles_increasing .., fun _ => mem_findFiles_iff, ?_, fun _ => mergeSort_walk,
    fun _ => findFiles_perm, fun _ => findFiles_congr_extensions⟩
  intro directory path scanned unlinked bounded
  rw [mem_findFiles_iff, ← finds_iff_liesBelow scanned unlinked bounded]
  simp [scanned]

/-- Directories and files with names that begin alike, a link to itself, and one that leads up
    again. -/
private def circularFiles : FileSystem :=
  ⟨[(["a"], .directory), (["a.cs"], .file []), (["a", "b.cs"], .file []),
    (["a", "up.cs"], .link ".."), (["loop.cs"], .link "loop.cs")], []⟩

private theorem circularFiles_root :
    circularFiles.Leads true 0 (circularFiles.origin "/") (names "/") [] :=
  .stay (.inl rfl) (.stay (.inl rfl) .done)

private theorem circularFiles_up : circularFiles.isDirectory "/a/up.cs" = true := by
  refine isDirectory_iff.2 ⟨[], scan_eq_ok_iff.2 ⟨locate_eq_ok_iff.2 ⟨by decide, ?_⟩, rfl⟩⟩
  exact .stay (.inl rfl) (.down (by decide) (by decide) rfl
    (.through (by decide) (by decide) rfl (.inr rfl) (.up .done)))

/-- The link to itself is found, and the one that leads up again is not. -/
theorem findFiles_exact_circular :
    (circularFiles.scan "/" = .ok [] ∧
      circularFiles.Leads true 0 (circularFiles.origin "/") (names "/") [] ∧
      circularFiles.Lists circularFiles.namesIn ∧ (circularFiles.entries.map (·.1)).Nodup) ∧
    "/loop.cs" ∈ circularFiles.findFiles "/" [".CS"] ∧
    "/a/b.cs" ∈ circularFiles.findFiles "/" [".CS"] ∧
    "/a/up.cs" ∉ circularFiles.findFiles "/" [".CS"] ∧
    (circularFiles.walk (List.reverse ∘ circularFiles.namesIn) [".CS"] "/").mergeSort =
      circularFiles.findFiles "/" [".CS"] ∧
    findFiles ⟨circularFiles.entries.reverse, []⟩ "/" [".CS"] =
      circularFiles.findFiles "/" [".CS"] ∧
    circularFiles.findFiles "/" [".CS", ".CS"] = circularFiles.findFiles "/" [".CS"] := by
  have scanned : circularFiles.scan "/" = .ok [] := by
    rw [scan_eq_ok_iff, locate_eq_ok_iff]
    exact ⟨⟨by decide, circularFiles_root.more_links (Nat.zero_le _)⟩, rfl⟩
  have unique : (circularFiles.entries.map (·.1)).Nodup := by decide
  have loop : circularFiles.NonDirectory [] "loop.cs" := by
    refine .inr ⟨⟨"loop.cs", rfl⟩, ?_⟩
    rintro ⟨there, leads, _⟩
    exact not_leads_of_self_link (by decide) rfl maxLinks there leads
  have file : circularFiles.NonDirectory ["a"] "b.cs" := .inl ⟨[], rfl⟩
  obtain ⟨_, exactly, found, listing, order, repeated⟩ := findFiles_exact circularFiles "/" [".CS"]
  have found (path : String) := found [] path scanned circularFiles_root
  refine ⟨⟨scanned, circularFiles_root, lists_namesIn _, unique⟩, (found _ (by decide)).2 ?_,
    (found _ (by decide)).2 ?_, ?_, listing _ fun directory => List.reverse_perm _,
    order _ (List.reverse_perm _) unique, repeated _ (by simp)⟩
  · exact ⟨[], "/", "loop.cs", .here, by decide, loop, ⟨".CS", by simp, by decide +kernel⟩, by decide⟩
  · exact ⟨["a"], "/a", "b.cs", .down (by decide) rfl .here, by decide, file,
      ⟨".CS", by simp, by decide +kernel⟩, by decide⟩
  · intro listed
    obtain ⟨directory, again, finds⟩ := (exactly _).1 listed
    cases scanned.symm.trans again
    have parts : "/a/up.cs" = joinPath (["a"].foldl joinPath "/") "up.cs" := by decide
    rw [parts] at finds
    obtain ⟨content, file⟩ | ⟨_, elsewhere⟩ := (finds.of_names (by decide)).2
    · cases file
    · rw [← parts, circularFiles_up] at elsewhere
      cases elsewhere

/-- A path that stays in the current directory, with so many steps more than one. -/
private def around : Nat → String
  | 0 => "."
  | steps + 1 => "./" ++ around steps

private theorem size_around (steps : Nat) : (around steps).utf8ByteSize = 2 * steps + 1 := by
  induction steps with
  | zero => decide
  | succ steps ih =>
      have two : "./".utf8ByteSize = 2 := by decide
      rw [around, String.utf8ByteSize_append, ih, two]
      omega

private theorem names_around (steps : Nat) : names (around steps) = List.replicate (steps + 1) "." := by
  induction steps with
  | zero => decide
  | succ steps ih =>
      have text : "./".toList = ['.'] ++ ['/'] := rfl
      rw [around, names, String.toList_append, text, List.append_assoc, List.singleton_append,
        List.singleton_append, ← List.singleton_append, namesFrom_append_slash, List.replicate_succ]
      rw [names] at ih
      rw [ih]
      rfl

private theorem accepted_around : Accepted (around 2047) where
  nonempty := fun empty => by
    have size := size_around 2047
    simp [empty] at size
  no_null := fun null => by
    have rest (steps : Nat) : '\x00' ∉ (around steps).toList := by
      induction steps with
      | zero => decide
      | succ steps ih =>
          rw [around, String.toList_append, List.mem_append]
          exact not_or.2 ⟨by decide, ih⟩
    exact rest _ null
  bounded := by
    rw [size_around]
    decide

private theorem leads_around (fs : FileSystem) (directory : Location) (steps : Nat) :
    fs.Leads true 0 directory (List.replicate steps ".") directory := by
  induction steps with
  | zero => exact .done
  | succ steps ih => exact .stay (.inr rfl) ih

private def deepFiles : FileSystem :=
  ⟨[(["d"], .directory), (["d", "x.cs"], .file [])], []⟩

private theorem deepFiles_liesBelow (root : String) :
    deepFiles.LiesBelow [".cs"] [] root (joinPath (joinPath root "d") "x.cs") :=
  ⟨["d"], _, "x.cs", .down (by decide) rfl .here, by decide, .inl ⟨[], rfl⟩,
    ⟨".cs", by simp, by decide +kernel⟩, rfl⟩

private theorem deepFiles_bounded
    (found : deepFiles.Finds [".cs"] directory root (joinPath (joinPath root "d") "x.cs")) :
    root.utf8ByteSize + 1 < maxPath := by
  have entries : ∀ step ∈ ["d"] ++ ["x.cs"], EntryName step := by decide
  have entry : EntryName "d" := entries _ (by simp)
  exact Nat.lt_of_le_of_lt (size_lt_joinPath entry root) (Finds.of_names entries found).1

/-- From a root whose path takes up all the bytes there are, a file in a directory inside of it is not
    found. -/
theorem findFiles_leaves_out_deep :
    deepFiles.scan (around 2047) = .ok [] ∧
    deepFiles.Leads true 0 (deepFiles.origin (around 2047)) (names (around 2047)) [] ∧
    deepFiles.LiesBelow [".cs"] [] (around 2047)
      (joinPath (joinPath (around 2047) "d") "x.cs") ∧
    joinPath (joinPath (around 2047) "d") "x.cs" ∉ deepFiles.findFiles (around 2047) [".cs"] := by
  have origin : deepFiles.origin (around 2047) = [] := by simp [FileSystem.origin, deepFiles]
  have unlinked :
      deepFiles.Leads true 0 (deepFiles.origin (around 2047)) (names (around 2047)) [] := by
    rw [origin, names_around]
    exact leads_around ..
  have scanned : deepFiles.scan (around 2047) = .ok [] := by
    rw [scan_eq_ok_iff, locate_eq_ok_iff]
    exact ⟨⟨accepted_around, unlinked.more_links (Nat.zero_le _)⟩, rfl⟩
  refine ⟨scanned, unlinked, deepFiles_liesBelow _, fun listed => ?_⟩
  obtain ⟨directory, _, finds⟩ := mem_findFiles_iff.1 listed
  have bounded := deepFiles_bounded finds
  rw [size_around] at bounded
  exact absurd bounded (by decide)

end FileSystem

end CallOrigin.File
