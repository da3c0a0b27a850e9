import CallOrigin.Proofs.Ways

/-! # What is left of a report that is written

A report is drafted under a name that no entry has, so making the draft changes no way, and when
the draft is gone again the file system is the one that was there before. What is left is the report
in its place, or nothing.
-/

namespace CallOrigin.File

/-- A path that ends in an ordinary name, with no slash behind it, is made of that name and of what
    is above. -/
theorem LastName.names_of_ordinary {names above : List String} {name : String}
    (last : LastName.of names = .ordinary above name false) :
    names = above ++ [name] ∧ Ordinary name := by
  rw [LastName.of] at last
  split at last
  · cases last
  next own ending =>
    split at last
    · cases last
    next common =>
      simp only [LastName.ordinary.injEq, decide_eq_false_iff_not, Nat.not_lt,
        List.length_reverse] at last
      obtain ⟨rfl, rfl, whole⟩ := last
      -- No empty name stands at the end, so nothing is dropped there.
      have kept : names.reverse.dropWhile (·.isEmpty) = names.reverse :=
        (List.dropWhile_suffix _).eq_of_length_le (by simpa using whole)
      rw [kept, List.reverse_reverse] at ending ⊢
      have nonempty := List.head?_dropWhile_not (·.isEmpty) names.reverse
      rw [kept, List.head?_reverse, ending] at nonempty
      simp only [Bool.or_eq_true, beq_iff_eq, not_or] at common
      obtain ⟨above, rfl⟩ := List.getLast?_eq_some_iff.1 ending
      refine ⟨by rw [List.dropLast_concat], ?_, common.1, common.2⟩
      rintro rfl
      cases nonempty

theorem LastName.of_concat {name : String} (ordinary : Ordinary name) (above : List String) :
    LastName.of (above ++ [name]) = .ordinary above name false := by
  simp [LastName.of, ordinary.nonempty, ordinary.not_here, ordinary.not_above]

namespace FileSystem

variable {fs fs' : FileSystem} {path : String}

/-! ## Drafts -/

/-- The names that a draft can be given. -/
inductive IsDraftName : String → Prop where
  | of_letters {letters : List Char} (eight : letters.length = 8)
      (known : ∀ c ∈ letters, c ∈ draftLetters) : IsDraftName (draftNameOf letters)

theorem isDraftName_eightDigits (n : Nat) : IsDraftName (draftNameOf (eightDigits n)) := by
  have digit : ∀ d < 10, Nat.digitChar d ∈ draftLetters := by decide
  refine .of_letters (by simp [eightDigits]) fun c inside => ?_
  obtain ⟨i, _, rfl⟩ := List.mem_map.1 inside
  exact digit _ (Nat.mod_lt _ (by decide))

theorem size_ofList_of_known {letters : List Char} (known : ∀ c ∈ letters, c ∈ draftLetters) :
    (String.ofList letters).utf8ByteSize = letters.length ∧ '\x00' ∉ letters := by
  have single : ∀ c ∈ draftLetters, (c.utf8Size == 1 && c != '\x00') = true :=
    List.all_eq_true.1 (by decide)
  induction letters with
  | nil => exact ⟨rfl, List.not_mem_nil⟩
  | cons c letters ih =>
      rw [List.forall_mem_cons] at known
      have letter := single c known.1
      rw [Bool.and_eq_true, beq_iff_eq, bne_iff_ne, ne_comm] at letter
      obtain ⟨size, other⟩ := letter
      obtain ⟨rest, others⟩ := ih known.2
      refine ⟨?_, List.not_mem_cons_of_ne_of_not_mem other others⟩
      rw [String.ofList_cons, String.utf8ByteSize_append, String.utf8ByteSize_singleton, size, rest,
        List.length_cons, Nat.add_comm]

/-- All names of drafts are of one length. -/
theorem IsDraftName.size {name : String} (draft : IsDraftName name) :
    name.utf8ByteSize = 23 ∧ '\x00' ∉ name.toList := by
  obtain ⟨eight, known⟩ := draft
  obtain ⟨size, others⟩ := size_ofList_of_known known
  have front : ".api-trace-".utf8ByteSize = 11 := by decide
  have back : ".tmp".utf8ByteSize = 4 := by decide
  rw [draftNameOf, String.utf8ByteSize_append, String.utf8ByteSize_append, size, eight, front, back]
  simp [others]

/-- That a draft of a report for a path can have a name: nothing has it where the draft is made. -/
structure Free (fs : FileSystem) (path name : String) : Prop where
  draft : IsDraftName name
  fresh : ∀ directory, fs.directoryAt [] (fs.draftDirectory path) = .ok directory →
    fs.entry? (directory ++ [name]) = none

theorem freeName?_eq_some {directory : Location} {tries : Nat} {name : String}
    (found : fs.freeName? directory tries = some name) :
    IsDraftName name ∧ fs.entry? (directory ++ [name]) = none := by
  induction tries with
  | zero => cases found
  | succ tries ih =>
      rw [freeName?] at found
      split at found
      next free =>
        cases found
        exact ⟨isDraftName_eightDigits tries, Option.isNone_iff_eq_none.1 free⟩
      next => exact ih found

theorem free_of_draftName? {name : String} (found : fs.draftName? path = some name) :
    fs.Free path name := by
  rw [draftName?] at found
  cases drafted : fs.directoryAt [] (fs.draftDirectory path) with
  | error refusal =>
      rw [drafted] at found
      cases found
      exact ⟨isDraftName_eightDigits 0, fun directory inside => nomatch drafted.symm.trans inside⟩
  | ok directory =>
      rw [drafted] at found
      obtain ⟨draft, fresh⟩ := freeName?_eq_some found
      refine ⟨draft, fun other inside => ?_⟩
      cases drafted.symm.trans inside
      exact fresh

theorem draftedIn_eq_ok_iff {name : String} {directory : Location} :
    fs.draftedIn path name = .ok directory ↔
      Accepted (fs.draftPath path name) ∧
        fs.directoryAt [] (fs.draftDirectory path) = .ok directory := by
  rw [draftedIn, accept_then_eq_ok_iff]

/-- Which name a draft has makes no difference to whether the system takes its path. -/
theorem accepted_draftPath_congr {name other : String} (draft : IsDraftName name)
    (also : IsDraftName other) :
    Accepted (fs.draftPath path name) ↔ Accepted (fs.draftPath path other) := by
  obtain ⟨front, parts⟩ : ∃ front, ∀ name, fs.draftPath path name = front ++ name := by
    refine ⟨(fs.draftDirectory path).foldl (fun text name => text ++ "/" ++ name)
      (if (path.toList.takeWhile (· == '/')).length == 2 then "/" else "") ++ "/", fun name => ?_⟩
    rw [draftPath, List.foldl_append]
    rfl
  have onward {name other : String} (draft : IsDraftName name) (also : IsDraftName other)
      (accepted : Accepted (front ++ name)) : Accepted (front ++ other) := by
    obtain ⟨_, no_null, bounded⟩ := accepted
    rw [String.toList_append, List.mem_append, not_or] at no_null
    rw [String.utf8ByteSize_append, draft.size.1, ← also.size.1, ← String.utf8ByteSize_append]
      at bounded
    refine ⟨?_, ?_, bounded⟩
    · intro empty
      have size := congrArg String.utf8ByteSize empty
      rw [String.utf8ByteSize_append, also.size.1] at size
      exact absurd size (Nat.succ_ne_zero _)
    · rw [String.toList_append, List.mem_append, not_or]
      exact ⟨no_null.1, also.size.2⟩
  rw [parts, parts]
  exact ⟨onward draft also, onward also draft⟩

/-! ## Where a report can be written -/

/-- A report takes the place of what a directory has under the last name of its path, unless that
    is a directory too. -/
theorem replaceable_eq_ok_iff {place : Location} :
    fs.replaceable path = .ok place ↔
      Accepted path ∧ ∃ above name at_,
        LastName.of (names path) = .ordinary above name false ∧
        fs.directoryAt (fs.origin path) above = .ok at_ ∧ name.utf8ByteSize ≤ 255 ∧
        fs.entry? (at_ ++ [name]) ≠ some .directory ∧ place = at_ ++ [name] := by
  rw [replaceable, accept_then_eq_ok_iff]
  refine and_congr_right fun _ => ?_
  cases LastName.of (names path) with
  | special above =>
      simp only [reduceCtorEq, false_and, exists_false, iff_false]
      cases fs.directoryAt (fs.origin path) above <;> nofun
  | ordinary above name slash =>
      simp only [LastName.ordinary.injEq]
      cases inside : fs.directoryAt (fs.origin path) above with
      | error refusal =>
          refine ⟨nofun, ?_⟩
          rintro ⟨_, _, at_, ⟨rfl, _⟩, found, _⟩
          cases inside.symm.trans found
      | ok at_ =>
          simp only [bind, Except.bind, beq_iff_eq]
          constructor
          · intro placed
            split at placed
            · cases placed
            next short =>
              split at placed
              · cases placed
              next bare =>
                split at placed
                · cases placed
                next other =>
                  exact ⟨above, name, at_, ⟨rfl, rfl, Bool.eq_false_iff.2 bare⟩, inside,
                    Nat.le_of_not_lt short, other, (Except.ok.inj placed).symm⟩
          · rintro ⟨_, _, _, ⟨rfl, rfl, rfl⟩, found, short, other, rfl⟩
            cases inside.symm.trans found
            simp [Nat.not_lt.2 short, other]

namespace SameWays

theorem directoryAt_iff (same : SameWays fs fs') {start there : Location} {names : List String} :
    fs.directoryAt start names = .ok there ↔ fs'.directoryAt start names = .ok there := by
  rw [directoryAt_eq_ok_iff, directoryAt_eq_ok_iff, same.leads_iff, same.directory_iff]

theorem replaceable_iff (same : SameWays fs fs') {place : Location} :
    fs.replaceable path = .ok place ↔ fs'.replaceable path = .ok place := by
  simp only [replaceable_eq_ok_iff, same.origin, same.directoryAt_iff, ne_eq, same.directory_iff]

end SameWays

/-- That a path names a place: what has its last name in the directory that the other names lead
    to. Nothing need be there, and a link there is not followed. -/
inductive Names (fs : FileSystem) (path : String) : Location → Prop where
  | entry {above : List String} {name : String} {directory : Location}
      (accepted : Accepted path) (parts : names path = above ++ [name])
      (ordinary : Ordinary name) (short : name.utf8ByteSize ≤ 255)
      (leads : fs.Leads true maxLinks (fs.origin path) above directory)
      (inside : fs.entry? directory = some .directory) : Names fs path (directory ++ [name])

theorem Names.ne_nil {place : Location} (named : fs.Names path place) : place ≠ [] := by
  cases named
  simp

/-- A name names a place in the current directory. -/
theorem names_name {name : String} (entry : EntryName name)
    (inside : fs.entry? fs.current = some .directory) : fs.Names name (fs.current ++ [name]) := by
  refine @Names.entry fs name [] name fs.current entry.accepted entry.names_eq entry.toOrdinary
    entry.short ?_ inside
  rw [origin, entry.relative, if_neg Bool.false_ne_true]
  exact .done

/-- A report takes the place that its path names, unless a directory is there. -/
theorem replaceable_iff_names {place : Location} :
    fs.replaceable path = .ok place ↔
      fs.Names path place ∧ fs.entry? place ≠ some .directory := by
  rw [replaceable_eq_ok_iff]
  constructor
  · rintro ⟨accepted, above, name, at_, last, found, short, other, rfl⟩
    obtain ⟨parts, ordinary⟩ := LastName.names_of_ordinary last
    obtain ⟨leads, inside⟩ := directoryAt_eq_ok_iff.1 found
    exact ⟨.entry accepted parts ordinary short leads inside, other⟩
  · rintro ⟨named, other⟩
    obtain @⟨above, name, at_, accepted, parts, ordinary, short, leads, inside⟩ := named
    refine ⟨accepted, above, name, at_, ?_, directoryAt_eq_ok_iff.2 ⟨leads, inside⟩, short, other,
      rfl⟩
    rw [parts, LastName.of_concat ordinary]

theorem ne_nil_of_replaceable {place : Location} (placed : fs.replaceable path = .ok place) :
    place ≠ [] :=
  (replaceable_iff_names.1 placed).1.ne_nil

theorem getLast?_of_replaceable {place : Location}
    (placed : fs.replaceable path = .ok place) :
    place.getLast? = (names path).getLast? := by
  obtain ⟨_, above, name, at_, last, _, _, _, rfl⟩ := replaceable_eq_ok_iff.1 placed
  rw [(LastName.names_of_ordinary last).1, List.getLast?_concat, List.getLast?_concat]

theorem isEnd_of_replaceable {place : Location} (placed : fs.replaceable path = .ok place)
    (noLink : ∀ target, fs.entry? place ≠ some (.link target)) : IsEnd (fs.entry? place) := by
  obtain ⟨_, _, _, _, _, _, _, noDirectory, rfl⟩ := replaceable_eq_ok_iff.1 placed
  cases here : fs.entry? _ with
  | none => exact .inl rfl
  | some e =>
      cases e with
      | file content => exact .inr ⟨content, rfl⟩
      | directory => exact absurd here noDirectory
      | link target => exact absurd here (noLink target)

/-! ## Reports -/

/-- Moving a draft puts what it holds into the place of the report, and leaves nothing of the
    draft. -/
theorem move_draft {draft : Location} (nonempty : draft ≠ []) (fresh : fs.entry? draft = none)
    (content : List UInt8) :
    (fs.put draft (.file content)).move draft path =
      ((fs.put draft (.file content)).replaceable path).map fun place =>
        fs.put place (.file content) := by
  have drafted : FileSystem.entry? (fs.put draft (.file content)) draft =
      some (.file content) := by
    rw [entry?_put_self nonempty]
  rw [move, drafted, remove_put nonempty fresh]
  rfl

section
variable {fault : Option WriteFault} {name : String} {codes : List Nat} {files : FileSystem}

theorem writeDraft_eq_written_iff {draft : Location} (nonempty : draft ≠ [])
    (fresh : fs.entry? draft = none) :
    fs.writeDraft fault draft path codes = ⟨files, none⟩ ↔
      fault = none ∧ ∃ place, fs.replaceable path = .ok place ∧
        files = fs.put place (.file (encode codes)) := by
  cases fault with
  | some f => simp [writeDraft]
  | none =>
      have unseen : ∀ place, fs.replaceable path = .ok place ↔
          (fs.put draft (.file (encode codes))).replaceable path = .ok place :=
        fun _ => (sameWays_put nonempty (.inl fresh) (encode codes)).replaceable_iff
      simp only [writeDraft, put_put, move_draft nonempty fresh, unseen]
      cases (fs.put draft (.file (encode codes))).replaceable path with
      | error refusal => simp [Except.map]
      | ok place => simp [Except.map, eq_comm]

/-- What there is of a draft is taken away where the report is not written. -/
theorem files_of_refused_draft {draft : Location} (nonempty : draft ≠ [])
    (fresh : fs.entry? draft = none) {refusal : Refusal}
    (refused : fs.writeDraft fault draft path codes = ⟨files, some refusal⟩) : files = fs := by
  cases fault with
  | some f =>
      simp only [writeDraft, put_put, remove_put nonempty fresh] at refused
      exact (congrArg Attempt.files refused).symm
  | none =>
      simp only [writeDraft, put_put, remove_put nonempty fresh] at refused
      split at refused
      · cases refused
      · exact (congrArg Attempt.files refused).symm

/-- A report that is written takes its place, and is all that changes. -/
theorem writeThrough_eq_written_iff (free : fs.Free path name) :
    fs.writeThrough fault name path codes = ⟨files, none⟩ ↔
      fault = none ∧ (∃ directory, fs.draftedIn path name = .ok directory) ∧
        ∃ place, fs.replaceable path = .ok place ∧
          files = fs.put place (.file (encode codes)) := by
  rw [writeThrough]
  cases drafted : fs.draftedIn path name with
  | error refusal => simp
  | ok directory =>
      have fresh := free.fresh directory (draftedIn_eq_ok_iff.1 drafted).2
      simp [writeDraft_eq_written_iff (List.concat_ne_nil _ _) fresh]

/-- A report that is not written changes nothing. -/
theorem files_of_refused_through (free : fs.Free path name) {refusal : Refusal}
    (refused : fs.writeThrough fault name path codes = ⟨files, some refusal⟩) : files = fs := by
  rw [writeThrough] at refused
  cases drafted : fs.draftedIn path name with
  | error _ =>
      rw [drafted] at refused
      exact (congrArg Attempt.files refused).symm
  | ok directory =>
      have fresh := free.fresh directory (draftedIn_eq_ok_iff.1 drafted).2
      rw [drafted] at refused
      exact files_of_refused_draft (List.concat_ne_nil _ _) fresh refused

/-- A report is written under a name that is free, or refused for want of one. -/
theorem writeReport_cases (fs : FileSystem) (fault : Option WriteFault) (path : String)
    (codes : List Nat) :
    (∃ name, fs.draftName? path = some name ∧ fs.Free path name ∧
      fs.writeReport fault path codes = fs.writeThrough fault name path codes) ∨
    fs.draftName? path = none ∧ fs.writeReport fault path codes = ⟨fs, some .noDraftName⟩ := by
  rw [writeReport]
  cases found : fs.draftName? path with
  | none => exact .inr ⟨rfl, rfl⟩
  | some name => exact .inl ⟨name, rfl, free_of_draftName? found, rfl⟩

theorem writeReport_eq_written_iff :
    fs.writeReport fault path codes = ⟨files, none⟩ ↔
      fault = none ∧
        (∃ name directory, fs.draftName? path = some name ∧
          fs.draftedIn path name = .ok directory) ∧
        ∃ place, fs.replaceable path = .ok place ∧
          files = fs.put place (.file (encode codes)) := by
  rcases writeReport_cases fs fault path codes with ⟨name, found, free, own⟩ | ⟨nothing, own⟩
  · simp only [own, found, writeThrough_eq_written_iff free, Option.some.injEq, exists_and_left,
      exists_eq_left']
  · simp [own, nothing]

/-- The first name that is tried for a draft. -/
def firstDraftName : String :=
  draftNameOf (eightDigits (draftTries - 1))

theorem draftName?_eq_first {directory : Location}
    (inside : fs.directoryAt [] (fs.draftDirectory path) = .ok directory)
    (fresh : fs.entry? (directory ++ [firstDraftName]) = none) :
    fs.draftName? path = some firstDraftName := by
  simp only [draftName?, inside]
  exact if_pos (Option.isNone_iff_eq_none.2 fresh)

/-- A report is written where the first name is free for its draft. -/
theorem writeReport_eq_put {directory place : Location}
    (inside : fs.directoryAt [] (fs.draftDirectory path) = .ok directory)
    (fresh : fs.entry? (directory ++ [firstDraftName]) = none)
    (accepted : Accepted (fs.draftPath path firstDraftName))
    (placed : fs.replaceable path = .ok place) :
    fs.writeReport none path codes = ⟨fs.put place (.file (encode codes)), none⟩ :=
  writeReport_eq_written_iff.2 ⟨rfl, ⟨_, directory, draftName?_eq_first inside fresh,
    draftedIn_eq_ok_iff.2 ⟨accepted, inside⟩⟩, place, placed, rfl⟩

theorem files_of_refused {refusal : Refusal}
    (refused : fs.writeReport fault path codes = ⟨files, some refusal⟩) : files = fs := by
  rcases writeReport_cases fs fault path codes with ⟨name, _, free, own⟩ | ⟨_, own⟩
  · exact files_of_refused_through free (own.symm.trans refused)
  · exact (congrArg Attempt.files (own.symm.trans refused)).symm

end

/-- A file is read by a path that names its place. -/
theorem Names.read {place : Location} (named : fs.Names path place) {content : List UInt8}
    (here : fs.entry? place = some (.file content)) : fs.read path = .ok content := by
  obtain @⟨above, name, directory, accepted, parts, ordinary, short, leads, inside⟩ := named
  have step : fs.Leads true 0 directory [name] (directory ++ [name]) :=
    .ends ordinary short (.inr ⟨content, here⟩)
  have onward := leads.append inside (by simp) step
  rw [← parts] at onward
  exact read_eq_ok_iff.2 ⟨directory ++ [name], locate_eq_ok_iff.2 ⟨accepted, onward⟩, here⟩

end FileSystem

end CallOrigin.File
