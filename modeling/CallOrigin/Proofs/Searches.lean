import CallOrigin.Proofs.Orders
import CallOrigin.Proofs.Ways
import Mathlib.Data.List.Induction

/-! # Searches for files

A search goes from a root down into the directories inside of it. Its paths grow by a name at each
step, and what the system does with a path depends on all of it: on its length, and on the links that
the path of the root goes through. So a directory is gone through as long as its path can still be
taken, and a link counts as a file if one does not come to a directory by its path.
-/

namespace CallOrigin.File

/-! ## Paths that go down -/

/-- The names of a path that goes down from a directory end in those that it goes down by. -/
theorem names_foldl_joinPath (root : String) :
    ∃ above, ∀ {below : List String}, below ≠ [] → (∀ name ∈ below, EntryName name) →
      names (below.foldl joinPath root) = above ++ below := by
  obtain ⟨above, first⟩ := names_joinPath root
  refine ⟨above, fun {below} => ?_⟩
  induction below using List.reverseRecOn with
  | nil =>
      intro nonempty
      exact absurd rfl nonempty
  | append_singleton before name ih =>
      intro _ entries
      have entry : EntryName name := entries name (by simp)
      have entriesBefore : ∀ name ∈ before, EntryName name :=
        fun name inside => entries name (List.mem_append_left _ inside)
      rw [List.foldl_append, List.foldl_cons, List.foldl_nil]
      rcases List.eq_nil_or_concat' before with rfl | ⟨start, last, rfl⟩
      · exact first entry
      · have closed : endsOpen ((start ++ [last]).foldl joinPath root) = false := by
          rw [List.foldl_append, List.foldl_cons, List.foldl_nil]
          exact endsOpen_joinPath (entriesBefore last (by simp)) _
        rw [names_joinPath_of_closed closed entry, ih (by simp) entriesBefore, List.append_assoc]

theorem foldl_joinPath_inj {root : String} {below below' : List String} (nonempty : below ≠ [])
    (nonempty' : below' ≠ []) (entries : ∀ name ∈ below, EntryName name)
    (entries' : ∀ name ∈ below', EntryName name)
    (same : below.foldl joinPath root = below'.foldl joinPath root) : below = below' := by
  obtain ⟨above, parts⟩ := names_foldl_joinPath root
  have names := parts nonempty entries
  rw [same, parts nonempty' entries'] at names
  exact (List.append_cancel_left names).symm

namespace FileSystem

variable {fs : FileSystem} {root path name : String} {extensions : List String}
  {directory at_ : Location}

/-! ## Names in a directory -/

theorem mem_namesIn :
    name ∈ fs.namesIn directory ↔ EntryName name ∧ fs.entry? (directory ++ [name]) ≠ none := by
  rw [namesIn, List.mem_filter, List.mem_eraseDups, List.mem_filterMap, decide_eq_true_iff, and_comm,
    Ne, entry?_eq_none_iff (by simp)]
  simp only [List.mem_filter, beq_iff_eq, List.getLast?_eq_some_iff, not_forall, not_not,
    exists_prop]
  refine and_congr_right fun _ => exists_congr fun entry => ?_
  constructor
  · rintro ⟨⟨inside, rfl⟩, above, place⟩
    exact ⟨inside, by rw [place, List.dropLast_concat]⟩
  · rintro ⟨inside, place⟩
    exact ⟨⟨inside, by rw [place, List.dropLast_concat]⟩, directory, place⟩

theorem nodup_namesIn (fs : FileSystem) (directory : Location) : (fs.namesIn directory).Nodup :=
  (nodup_eraseDups _).filter _

/-- That each directory is listed with all its names, in whatever order. -/
def Lists (fs : FileSystem) (listed : Location → List String) : Prop :=
  ∀ directory, (listed directory).Perm (fs.namesIn directory)

theorem lists_namesIn (fs : FileSystem) : fs.Lists fs.namesIn :=
  fun _ => .refl _

/-! ## Roots -/

theorem scan_root (fs : FileSystem) : fs.scan "/" = .ok [] := by
  rw [scan_eq_ok_iff, locate_eq_ok_iff]
  exact ⟨⟨by decide, .stay (.inl rfl) (.stay (.inl rfl) .done)⟩, rfl⟩

theorem scan_here (inside : fs.entry? fs.current = some .directory) :
    fs.scan "." = .ok fs.current := by
  rw [scan_eq_ok_iff, locate_eq_ok_iff]
  exact ⟨⟨by decide, .stay (.inr rfl) .done⟩, inside⟩

theorem checkRoot_of_scan (scanned : fs.scan root = .ok directory) :
    fs.checkRoot root none = .ok () := by
  simp [checkRoot, isDirectory_iff.2 ⟨directory, scanned⟩]

/-! ## Steps down -/

theorem leads_name (entry : EntryName name) (links : Nat) (directory : Location) :
    fs.Leads false links directory [name] (directory ++ [name]) := by
  cases here : fs.entry? (directory ++ [name]) with
  | none => exact .ends entry.toOrdinary entry.short (.inl here)
  | some e =>
      cases e with
      | file content => exact .ends entry.toOrdinary entry.short (.inr ⟨content, here⟩)
      | directory => exact .down entry.toOrdinary entry.short here .done
      | link target => exact .kept entry.toOrdinary entry.short here rfl

/-- The way by a path and a name below it is a way by the path, and then by the name. -/
theorem exists_way {links : Nat} (nonempty : path ≠ "")
    (leads : fs.Leads true links (fs.origin path) (names path) directory) :
    ∃ way, fs.Leads true links (fs.origin path) way directory ∧ ∀ {name : String}, EntryName name →
      fs.origin (joinPath path name) = fs.origin path ∧ names (joinPath path name) = way ++ [name] := by
  obtain ⟨way, slash, joined⟩ := names_joinPath_of_ne nonempty
  refine ⟨way, ?_, fun {name} entry => ⟨?_, joined entry⟩⟩
  · rcases slash with whole | slash
    · exact whole ▸ leads
    · exact leads.of_slash slash
  · rw [FileSystem.origin, FileSystem.origin, isAbsolute_joinPath nonempty entry]

/-- A way to a directory goes on by a name that is put behind its path. -/
theorem leads_joinPath {links more : Nat} (nonempty : path ≠ "")
    (leads : fs.Leads true links (fs.origin path) (names path) directory)
    (inside : fs.entry? directory = some .directory) (entry : EntryName name) {last : Bool}
    {there : Location} (onward : fs.Leads last more directory [name] there) :
    fs.Leads last (links + more) (fs.origin (joinPath path name)) (names (joinPath path name))
      there := by
  obtain ⟨way, leads, joined⟩ := exists_way nonempty leads
  rw [(joined entry).1, (joined entry).2]
  exact leads.append inside (by simp) onward

theorem leads_of_scan (scanned : fs.scan path = .ok directory) :
    Accepted path ∧ fs.Leads true maxLinks (fs.origin path) (names path) directory ∧
      fs.entry? directory = some .directory := by
  obtain ⟨located, inside⟩ := scan_eq_ok_iff.1 scanned
  obtain ⟨accepted, leads⟩ := locate_eq_ok_iff.1 located
  exact ⟨accepted, leads, inside⟩

/-- A file in a directory is read by the path of the directory and its name. -/
theorem read_joinPath (scanned : fs.scan path = .ok directory) (entry : EntryName name)
    {content : List UInt8} (file : fs.entry? (directory ++ [name]) = some (.file content))
    (bounded : (joinPath path name).utf8ByteSize < maxPath) :
    fs.read (joinPath path name) = .ok content := by
  obtain ⟨accepted, leads, inside⟩ := leads_of_scan scanned
  have step : fs.Leads true 0 directory [name] (directory ++ [name]) :=
    .ends entry.toOrdinary entry.short (.inr ⟨content, file⟩)
  refine read_eq_ok_iff.2 ⟨_, locate_eq_ok_iff.2 ⟨?_, ?_⟩, file⟩
  · exact (accepted_joinPath_iff accepted entry).2 bounded
  · exact leads_joinPath accepted.nonempty leads inside entry step

theorem read_joinPath_iff (scanned : fs.scan path = .ok directory) (entry : EntryName name)
    {content bytes : List UInt8} (file : fs.entry? (directory ++ [name]) = some (.file content)) :
    fs.read (joinPath path name) = .ok bytes ↔
      (joinPath path name).utf8ByteSize < maxPath ∧ content = bytes := by
  constructor
  · intro read
    obtain ⟨_, located, _⟩ := read_eq_ok_iff.1 read
    have bounded := (locate_eq_ok_iff.1 located).1.bounded
    exact ⟨bounded, Except.ok.inj ((read_joinPath scanned entry file bounded).symm.trans read)⟩
  · rintro ⟨bounded, rfl⟩
    exact read_joinPath scanned entry file bounded

/-- A directory inside of another can be listed as long as its path is short enough. -/
theorem scan_joinPath_iff (scanned : fs.scan path = .ok directory) (entry : EntryName name)
    (below : fs.entry? (directory ++ [name]) = some .directory) {there : Location} :
    fs.scan (joinPath path name) = .ok there ↔
      there = directory ++ [name] ∧ (joinPath path name).utf8ByteSize < maxPath := by
  obtain ⟨accepted, leads, inside⟩ := leads_of_scan scanned
  have leads := leads_joinPath accepted.nonempty leads inside entry
    (.down entry.toOrdinary entry.short below (@Leads.done fs true 0 _))
  rw [scan_eq_ok_iff, locate_eq_ok_iff, accepted_joinPath_iff accepted entry]
  constructor
  · rintro ⟨⟨bounded, other⟩, _⟩
    exact ⟨Except.ok.inj (other.follow.symm.trans leads.follow), bounded⟩
  · rintro ⟨rfl, bounded⟩
    exact ⟨⟨bounded, leads⟩, below⟩

theorem isLink_joinPath_iff (scanned : fs.scan path = .ok directory) (entry : EntryName name) :
    fs.isLink (joinPath path name) = true ↔ (joinPath path name).utf8ByteSize < maxPath ∧
      ∃ target, fs.entry? (directory ++ [name]) = some (.link target) := by
  obtain ⟨accepted, leads, inside⟩ := leads_of_scan scanned
  have leads := leads_joinPath accepted.nonempty leads inside entry (leads_name entry 0 directory)
  have accepted := accepted_joinPath_iff accepted entry
  rw [isLink]
  cases resolved : fs.resolve false (joinPath path name) with
  | error refusal =>
      refine ⟨nofun, fun ⟨bounded, _⟩ => ?_⟩
      cases resolved.symm.trans (resolve_eq_ok_iff.2 ⟨accepted.2 bounded, leads⟩)
  | ok there =>
      obtain ⟨taken, other⟩ := resolve_eq_ok_iff.1 resolved
      obtain rfl : there = directory ++ [name] :=
        Except.ok.inj (other.follow.symm.trans leads.follow)
      dsimp only
      cases fs.entry? (directory ++ [name]) with
      | none => simp
      | some e =>
          cases e with
          | file content => simp [Entry.isLink]
          | directory => simp [Entry.isLink]
          | link target => simp [Entry.isLink, accepted.1 taken]

/-- What is entered are the directories, and no links. -/
theorem entered_iff (scanned : fs.scan path = .ok directory) (entry : EntryName name) :
    fs.isDirectoryIn path directory name = true ∧ fs.isLink (joinPath path name) = false ↔
      fs.entry? (directory ++ [name]) = some .directory := by
  rw [← Bool.not_eq_true, isLink_joinPath_iff scanned entry, isDirectoryIn]
  cases fs.entry? (directory ++ [name]) with
  | none => simp
  | some e =>
      cases e with
      | file content => simp
      | directory => simp
      | link target =>
          refine ⟨?_, nofun⟩
          rintro ⟨entered, unlinked⟩
          obtain ⟨there, entered⟩ := isDirectory_iff.1 entered
          exact absurd ⟨size_lt_of_scan entered, target, rfl⟩ unlinked

/-! ## What is found -/

/-- That a name in a directory counts as that of a file: there is a file, or a link, and by the path
    of the link one does not come to a directory. -/
def CountsAsFile (fs : FileSystem) (path : String) (directory : Location) (name : String) : Prop :=
  (∃ content, fs.entry? (directory ++ [name]) = some (.file content)) ∨
    (∃ target, fs.entry? (directory ++ [name]) = some (.link target)) ∧
      fs.isDirectory (joinPath path name) = false

theorem CountsAsFile.entry?_ne_none (counts : fs.CountsAsFile path directory name) :
    fs.entry? (directory ++ [name]) ≠ none := by
  rcases counts with ⟨_, file⟩ | ⟨⟨_, link⟩, _⟩
  · simp [file]
  · simp [link]

theorem countsAsFile_iff (present : fs.entry? (directory ++ [name]) ≠ none) :
    fs.CountsAsFile path directory name ↔ fs.isDirectoryIn path directory name = false := by
  rw [CountsAsFile, isDirectoryIn]
  cases here : fs.entry? (directory ++ [name]) with
  | none => exact absurd here present
  | some e =>
      cases e with
      | file content => simp
      | directory => simp
      | link target => simp

/-- That a name ends in one of several ways, case apart. -/
def EndsLikeOne (extensions : List String) (name : String) : Prop :=
  ∃ extension ∈ extensions, (Text.lower extension).toList <:+ (Text.lower name).toList

theorem EndsLikeOne.mono {more : List String} (ends : EndsLikeOne extensions name)
    (fewer : extensions ⊆ more) : EndsLikeOne more name := by
  obtain ⟨extension, known, suffix⟩ := ends
  exact ⟨extension, fewer known, suffix⟩

theorem endsInOne_iff : endsInOne extensions name = true ↔ EndsLikeOne extensions name := by
  simp only [endsInOne, List.any_eq_true, Text.endsLike, List.isSuffixOf_iff_suffix, EndsLikeOne]

/-- That one goes down from a directory to another through directories only, no links, and from a
    path for the one to a path for the other. -/
inductive Reaches (fs : FileSystem) : Location → String → Location → String → Prop where
  | here {directory : Location} {path : String} : Reaches fs directory path directory path
  | down {directory there : Location} {path above name : String} (entry : EntryName name)
      (inside : fs.entry? (directory ++ [name]) = some .directory)
      (onward : Reaches fs (directory ++ [name]) (joinPath path name) there above) :
      Reaches fs directory path there above

theorem Reaches.size_le {there : Location} {above : String}
    (reaches : fs.Reaches directory path there above) :
    path.utf8ByteSize ≤ above.utf8ByteSize := by
  induction reaches with
  | here => exact Nat.le_refl _
  | down entry _ _ ih => exact Nat.le_trans (Nat.le_of_lt (size_lt_joinPath entry _)) ih

theorem Reaches.imp {fs' : FileSystem} {there : Location} {above : String}
    (reaches : fs.Reaches directory path there above)
    (directories : ∀ at_, fs.entry? at_ = some .directory → fs'.entry? at_ = some .directory) :
    fs'.Reaches directory path there above := by
  induction reaches with
  | here => exact .here
  | down entry inside _ ih => exact .down entry (directories _ inside) ih

theorem Reaches.scan {there : Location} {above : String}
    (reaches : fs.Reaches directory path there above) (scanned : fs.scan path = .ok directory)
    (short : above.utf8ByteSize < maxPath) : fs.scan above = .ok there := by
  induction reaches with
  | here => exact scanned
  | down entry inside onward ih =>
      have bounded := Nat.lt_of_le_of_lt onward.size_le short
      exact ih ((scan_joinPath_iff scanned entry inside).2 ⟨rfl, bounded⟩) short

theorem Reaches.exists_below {there : Location} {above : String}
    (reaches : fs.Reaches directory path there above) :
    ∃ below, (∀ name ∈ below, EntryName name) ∧ there = directory ++ below ∧
      above = below.foldl joinPath path := by
  induction reaches with
  | here => exact ⟨[], by simp, by simp, rfl⟩
  | @down _ _ _ _ step first _ _ ih =>
      obtain ⟨below, entries, place, joined⟩ := ih
      exact ⟨step :: below, List.forall_mem_cons.2 ⟨first, entries⟩, by simp [place], joined⟩

/-- That a path is found below a directory: it is the path of what counts as a file and has one of
    the names looked for, in a directory that is reached and whose own path is short enough. -/
def Finds (fs : FileSystem) (extensions : List String) (directory : Location)
    (root path : String) : Prop :=
  ∃ there above name, fs.Reaches directory root there above ∧ above.utf8ByteSize < maxPath ∧
    EntryName name ∧ fs.CountsAsFile above there name ∧ EndsLikeOne extensions name ∧
    path = joinPath above name

/-- What is found is in the directory itself, or below one of those inside of it. -/
theorem finds_iff (bounded : root.utf8ByteSize < maxPath) :
    fs.Finds extensions directory root path ↔
      (∃ name, EntryName name ∧ fs.CountsAsFile root directory name ∧ EndsLikeOne extensions name ∧
        path = joinPath root name) ∨
      ∃ name, EntryName name ∧ fs.entry? (directory ++ [name]) = some .directory ∧
        fs.Finds extensions (directory ++ [name]) (joinPath root name) path := by
  constructor
  · rintro ⟨there, above, name, reaches, short, rest⟩
    cases reaches with
    | here => exact .inl ⟨name, rest⟩
    | down entry inside onward => exact .inr ⟨_, entry, inside, there, above, name, onward, short, rest⟩
  · rintro (⟨name, rest⟩ | ⟨step, entry, inside, there, above, name, onward, rest⟩)
    · exact ⟨directory, root, name, .here, bounded, rest⟩
    · exact ⟨there, above, name, .down entry inside onward, rest⟩

theorem Finds.bounded (found : fs.Finds extensions directory root path) :
    root.utf8ByteSize < maxPath := by
  obtain ⟨_, _, _, reaches, short, _⟩ := found
  exact Nat.lt_of_le_of_lt reaches.size_le short

section
variable {listed : Location → List String}

theorem mem_files_iff (lists : fs.Lists listed) :
    name ∈ (listed directory).filter (fun name =>
        !fs.isDirectoryIn path directory name && endsInOne extensions name) ↔
      EntryName name ∧ fs.CountsAsFile path directory name ∧ EndsLikeOne extensions name := by
  rw [List.mem_filter, (lists directory).mem_iff, mem_namesIn, Bool.and_eq_true, Bool.not_eq_true',
    endsInOne_iff]
  constructor
  · rintro ⟨⟨entry, present⟩, file, ends⟩
    exact ⟨entry, (countsAsFile_iff present).2 file, ends⟩
  · rintro ⟨entry, counts, ends⟩
    have present := counts.entry?_ne_none
    exact ⟨⟨entry, present⟩, (countsAsFile_iff present).1 counts, ends⟩

theorem mem_walk_iff (lists : fs.Lists listed) :
    path ∈ fs.walk listed extensions root ↔
      ∃ directory, fs.scan root = .ok directory ∧ fs.Finds extensions directory root path := by
  fun_induction walk fs listed extensions root with
  | case1 root refusal failed => simp [failed]
  | case2 root directory scanned files ih =>
      simp only [scanned, Except.ok.injEq, exists_eq_left']
      rw [finds_iff (size_lt_of_scan scanned), List.mem_append, List.mem_map,
        List.mem_flatMap]
      refine or_congr (exists_congr fun name => ?_) (exists_congr fun name => ?_)
      · rw [mem_files_iff lists, and_assoc, and_assoc, eq_comm]
      · rw [(lists directory).mem_iff, mem_namesIn]
        constructor
        · rintro ⟨_, found⟩
          split at found
          next entered =>
            have below := (entered_iff scanned entered.1).1 entered.2
            obtain ⟨there, again, finds⟩ := (ih name entered).1 found
            obtain ⟨rfl, _⟩ := (scan_joinPath_iff scanned entered.1 below).1 again
            exact ⟨entered.1, below, finds⟩
          next => cases found
        · rintro ⟨entry, below, finds⟩
          have entered := (entered_iff scanned entry).2 below
          refine ⟨⟨entry, by simp [below]⟩, ?_⟩
          rw [dif_pos ⟨entry, entered⟩]
          exact (ih name ⟨entry, entered⟩).2
            ⟨_, (scan_joinPath_iff scanned entry below).2 ⟨rfl, finds.bounded⟩, finds⟩

end

/-- A path that is found goes down by names that entries can have. -/
theorem Finds.below (found : fs.Finds extensions directory root path) :
    ∃ below, below ≠ [] ∧ (∀ name ∈ below, EntryName name) ∧ path = below.foldl joinPath root := by
  obtain ⟨there, above, name, reaches, _, entry, _, _, rfl⟩ := found
  obtain ⟨below, entries, _, rfl⟩ := reaches.exists_below
  refine ⟨below ++ [name], by simp, ?_, by simp⟩
  exact List.forall_mem_append.2 ⟨entries, List.forall_mem_singleton.2 entry⟩

/-- A path tells by which names it goes down, so it tells where it is found. -/
theorem Finds.of_names {below : List String} (entries : ∀ step ∈ below ++ [name], EntryName step)
    (found : fs.Finds extensions directory root (joinPath (below.foldl joinPath root) name)) :
    (below.foldl joinPath root).utf8ByteSize < maxPath ∧
      fs.CountsAsFile (below.foldl joinPath root) (directory ++ below) name := by
  obtain ⟨there, above, last, reaches, short, entry, counts, _, same⟩ := found
  obtain ⟨steps, stepEntries, rfl, rfl⟩ := reaches.exists_below
  have parts : below ++ [name] = steps ++ [last] := by
    refine foldl_joinPath_inj (by simp) (by simp) entries ?_ (by simpa using same)
    exact List.forall_mem_append.2 ⟨stepEntries, List.forall_mem_singleton.2 entry⟩
  obtain ⟨rfl, only⟩ := List.append_inj' parts rfl
  cases only
  exact ⟨short, counts⟩

section
variable {listed : Location → List String}

/-- What is found below a directory has a path that begins with its name and goes on. -/
theorem below_of_mem_walk (lists : fs.Lists listed) (entry : EntryName name)
    (found : path ∈ fs.walk listed extensions (joinPath root name)) :
    ∃ below, below ≠ [] ∧ (∀ step ∈ name :: below, EntryName step) ∧
      path = (name :: below).foldl joinPath root := by
  obtain ⟨_, _, finds⟩ := (mem_walk_iff lists).1 found
  obtain ⟨below, nonempty, entries, rfl⟩ := finds.below
  exact ⟨below, nonempty, List.forall_mem_cons.2 ⟨entry, entries⟩, rfl⟩

theorem nodup_walk (lists : fs.Lists listed) (extensions : List String) (root : String) :
    (fs.walk listed extensions root).Nodup := by
  fun_induction walk fs listed extensions root with
  | case1 => exact .nil
  | case2 root directory scanned files ih =>
      have unique : (listed directory).Nodup :=
        (lists directory).nodup_iff.2 (fs.nodup_namesIn directory)
      have fileName {name : String} (file : name ∈ files) : ∀ step ∈ [name], EntryName step :=
        List.forall_mem_singleton.2 ((mem_files_iff lists).1 file).1
      -- What a name adds is found below it, so two names, or a name and a file, share no path.
      have below {name path : String} (found : path ∈
          if _ : EntryName name ∧ fs.isDirectoryIn root directory name = true ∧
              fs.isLink (joinPath root name) = false then
            fs.walk listed extensions (joinPath root name) else []) :
          ∃ below, below ≠ [] ∧ (∀ step ∈ name :: below, EntryName step) ∧
            path = (name :: below).foldl joinPath root := by
        split at found
        next entered => exact below_of_mem_walk lists entered.1 found
        next => cases found
      refine List.nodup_append.2 ⟨?_, List.nodup_flatMap.2 ⟨?_, ?_⟩, ?_⟩
      · refine List.Nodup.map_on ?_ (unique.filter _)
        intro name file other file' same
        exact List.singleton_inj.1
          (foldl_joinPath_inj (by simp) (by simp) (fileName file) (fileName file') same)
      · intro name _
        split
        next entered => exact ih name entered
        next => exact .nil
      · refine unique.imp fun {name other} apart path found found' => ?_
        obtain ⟨rest, _, entries, rfl⟩ := below found
        obtain ⟨rest', _, entries', same⟩ := below found'
        exact apart (List.cons.inj
          (foldl_joinPath_inj (by simp) (by simp) entries entries' same)).1
      · intro path file path' found
        rintro rfl
        obtain ⟨name, taken, rfl⟩ := List.mem_map.1 file
        obtain ⟨other, _, found⟩ := List.mem_flatMap.1 found
        obtain ⟨rest, nonempty, entries, same⟩ := below found
        exact nonempty (List.cons.inj
          (foldl_joinPath_inj (by simp) (by simp) (fileName taken) entries same)).2.symm

end

theorem findFiles_increasing (fs : FileSystem) (root : String) (extensions : List String) :
    (fs.findFiles root extensions).Pairwise (· < ·) :=
  mergeSort_increasing (nodup_walk fs.lists_namesIn extensions root)

theorem mem_findFiles_iff :
    path ∈ fs.findFiles root extensions ↔
      ∃ directory, fs.scan root = .ok directory ∧ fs.Finds extensions directory root path := by
  rw [findFiles, List.mem_mergeSort, mem_walk_iff fs.lists_namesIn]

theorem findFiles_of_empty (scanned : fs.scan root = .ok directory)
    (empty : fs.namesIn directory = []) (extensions : List String) :
    fs.findFiles root extensions = [] := by
  rw [findFiles, walk]
  split
  next failed => cases scanned.symm.trans failed
  next found =>
    cases scanned.symm.trans found
    simp only [empty, List.filter_nil, List.map_nil, List.flatMap_nil, List.append_nil,
      List.mergeSort_nil]

/-- What is found is found again in a file system with the same directories, if what counts as a file
    counts as one there. -/
theorem Finds.imp {fs' : FileSystem} (found : fs.Finds extensions directory root path)
    (directories : ∀ at_, fs.entry? at_ = some .directory → fs'.entry? at_ = some .directory)
    (files : ∀ {there : Location} {above name : String}, fs.Reaches directory root there above →
      EntryName name → EndsLikeOne extensions name → fs.CountsAsFile above there name →
      fs'.CountsAsFile above there name) :
    fs'.Finds extensions directory root path := by
  obtain ⟨there, above, name, reaches, short, entry, counts, ends, rfl⟩ := found
  exact ⟨there, above, name, reaches.imp directories, short, entry,
    files reaches entry ends counts, ends, rfl⟩

/-- A file in a directory is found by its name there. -/
theorem mem_findFiles_of_file (scanned : fs.scan root = .ok directory) (entry : EntryName name)
    {content : List UInt8} (file : fs.entry? (directory ++ [name]) = some (.file content))
    (listed : endsInOne extensions name = true) :
    joinPath root name ∈ fs.findFiles root extensions :=
  mem_findFiles_iff.2 ⟨directory, scanned, directory, root, name, .here,
    size_lt_of_scan scanned, entry, .inl ⟨content, file⟩, endsInOne_iff.1 listed, rfl⟩

end FileSystem

end CallOrigin.File
