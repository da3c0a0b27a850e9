import CallOrigin.Proofs.Searches

/-! # Links that a way passes

A file that takes the place of a link cuts off the ways that go through the link, and no others. So
where a path leads, what is found below a root and what is read stay the same when a file is put
somewhere, as long as no way that is gone passes a link there, and what is looked for has neither the
name of the file nor leads to it.
-/

namespace CallOrigin.File.FileSystem

variable {fs : FileSystem} {place : Location}

/-! ## Ways -/

/-- That one comes to a link at a place, and has to follow it, on the way that names lead from a
    directory. -/
inductive Passes (fs : FileSystem) (place : Location) : Nat → Location → List String → Prop where
  | here {links : Nat} {directory : Location} {name target : String} {rest : List String}
      (ordinary : Ordinary name) (arrived : directory ++ [name] = place)
      (link : fs.entry? place = some (.link target)) : Passes fs place links directory (name :: rest)
  | stay {links : Nat} {directory : Location} {name : String} {rest : List String}
      (same : name = "" ∨ name = ".") (onward : Passes fs place links directory rest) :
      Passes fs place links directory (name :: rest)
  | up {links : Nat} {directory : Location} {rest : List String}
      (onward : Passes fs place links directory.dropLast rest) :
      Passes fs place links directory (".." :: rest)
  | down {links : Nat} {directory : Location} {name : String} {rest : List String}
      (ordinary : Ordinary name) (below : fs.entry? (directory ++ [name]) = some .directory)
      (onward : Passes fs place links (directory ++ [name]) rest) :
      Passes fs place links directory (name :: rest)
  | through {links : Nat} {directory : Location} {name target : String} {rest : List String}
      (ordinary : Ordinary name) (link : fs.entry? (directory ++ [name]) = some (.link target))
      (onward : Passes fs place links (if isAbsolute target then [] else directory)
        (names target ++ rest)) :
      Passes fs place (links + 1) directory (name :: rest)

/-- Where there is no link none is passed. -/
theorem Passes.exists_link {links : Nat} {directory : Location} {path : List String}
    (passes : fs.Passes place links directory path) :
    ∃ target, fs.entry? place = some (.link target) := by
  induction passes with
  | here _ _ link => exact ⟨_, link⟩
  | stay _ _ ih => exact ih
  | up _ ih => exact ih
  | down _ _ _ ih => exact ih
  | through _ _ _ ih => exact ih

theorem not_passes_nil {links : Nat} {directory : Location} :
    ¬ fs.Passes place links directory [] := nofun

theorem Passes.of_stay {links : Nat} {directory : Location} {name : String} {rest : List String}
    (passes : fs.Passes place links directory (name :: rest)) (same : name = "" ∨ name = ".") :
    fs.Passes place links directory rest := by
  have special (ordinary : Ordinary name) : False := same.elim ordinary.nonempty ordinary.not_here
  cases passes with
  | here ordinary => exact (special ordinary).elim
  | stay _ onward => exact onward
  | up => simp at same
  | down ordinary => exact (special ordinary).elim
  | through ordinary => exact (special ordinary).elim

theorem Passes.of_down {links : Nat} {directory : Location} {name : String} {rest : List String}
    (passes : fs.Passes place links directory (name :: rest)) (ordinary : Ordinary name)
    (below : fs.entry? (directory ++ [name]) = some .directory) :
    fs.Passes place links (directory ++ [name]) rest := by
  cases passes with
  | here _ arrived link =>
      rw [arrived, link] at below
      cases below
  | stay same => exact (same.elim ordinary.nonempty ordinary.not_here).elim
  | up => exact absurd rfl ordinary.not_above
  | down _ _ onward => exact onward
  | through _ link => cases link.symm.trans below

section
variable (nonempty : place ≠ []) (content : List UInt8)
include nonempty

theorem isEnd_put : IsEnd (FileSystem.entry? (fs.put place (.file content)) place) := by
  rw [entry?_put_self nonempty]
  exact .inr ⟨content, rfl⟩

theorem entry?_put_of_not_isEnd {at_ : Location}
    (open_ : ¬ IsEnd (FileSystem.entry? (fs.put place (.file content)) at_)) :
    FileSystem.entry? (fs.put place (.file content)) at_ = fs.entry? at_ := by
  rw [entry?_put nonempty]
  split
  next here =>
    subst here
    exact absurd (isEnd_put nonempty content) open_
  next => rfl

theorem directory_put_iff (noDirectory : fs.entry? place ≠ some .directory) (at_ : Location) :
    FileSystem.entry? (fs.put place (.file content)) at_ = some .directory ↔
      fs.entry? at_ = some .directory := by
  rw [entry?_put nonempty]
  split
  next here =>
    subst here
    simp [noDirectory]
  next => rfl

/-- A way stays open that does not pass the link in whose place a file is put. -/
theorem Leads.put {links : Nat} {directory there : Location} {path : List String}
    (leads : fs.Leads true links directory path there)
    (noDirectory : fs.entry? place ≠ some .directory)
    (unpassed : ¬ fs.Passes place links directory path) :
    (fs.put place (.file content)).Leads true links directory path there := by
  induction leads with
  | done => exact .done
  | stay same _ ih => exact .stay same (ih fun passes => unpassed (.stay same passes))
  | up _ ih => exact .up (ih fun passes => unpassed (.up passes))
  | @ends _ directory name ordinary short ended =>
      refine .ends ordinary short ?_
      by_cases here : directory ++ [name] = place
      · rw [here]
        exact isEnd_put nonempty content
      · rwa [entry?_put_of_ne nonempty _ here]
  | down ordinary short below _ ih =>
      refine .down ordinary short ?_ (ih fun passes => unpassed (.down ordinary below passes))
      exact (directory_put_iff nonempty content noDirectory _).2 below
  | kept _ _ _ unfollowed => cases unfollowed
  | @through _ directory _ name _ _ ordinary short link followed _ ih =>
      have apart : directory ++ [name] ≠ place := fun here =>
        unpassed (.here ordinary here (here ▸ link))
      exact .through ordinary short ((entry?_put_of_ne nonempty _ apart).trans link) followed
        (ih fun passes => unpassed (.through ordinary link passes))

/-- A way that is open once a file has been put somewhere was open before, unless it passes the
    link there. -/
theorem Leads.of_put {links : Nat} {directory there : Location} {path : List String}
    (leads : (fs.put place (.file content)).Leads true links directory path there)
    (noDirectory : fs.entry? place ≠ some .directory)
    (unpassed : ¬ fs.Passes place links directory path) :
    fs.Leads true links directory path there := by
  induction leads with
  | done => exact .done
  | stay same _ ih => exact .stay same (ih fun passes => unpassed (.stay same passes))
  | up _ ih => exact .up (ih fun passes => unpassed (.up passes))
  | @ends _ directory name ordinary short ended =>
      refine .ends ordinary short ?_
      by_cases here : directory ++ [name] = place
      · -- what was there before is no directory, and no link since the way would pass it
        rw [here]
        cases before : fs.entry? place with
        | none => exact .inl rfl
        | some e =>
            cases e with
            | file old => exact .inr ⟨old, rfl⟩
            | directory => exact absurd before noDirectory
            | link target => exact absurd (.here ordinary here before) unpassed
      · rwa [entry?_put_of_ne nonempty _ here] at ended
  | down ordinary short below _ ih =>
      have below := (directory_put_iff nonempty content noDirectory _).1 below
      exact .down ordinary short below (ih fun passes => unpassed (.down ordinary below passes))
  | kept _ _ _ unfollowed => cases unfollowed
  | through ordinary short link followed _ ih =>
      rw [entry?_put_of_not_isEnd nonempty content (link ▸ not_isEnd_link _)] at link
      exact .through ordinary short link followed
        (ih fun passes => unpassed (.through ordinary link passes))

end

section
variable (nonempty : place ≠ []) (noDirectory : fs.entry? place ≠ some .directory)
  (content : List UInt8)
include nonempty noDirectory

theorem leads_put_iff {links : Nat} {directory there : Location} {path : List String}
    (unpassed : ¬ fs.Passes place links directory path) :
    (fs.put place (.file content)).Leads true links directory path there ↔
      fs.Leads true links directory path there :=
  ⟨fun leads => leads.of_put nonempty content noDirectory unpassed,
    fun leads => leads.put nonempty content noDirectory unpassed⟩

theorem directoryAt_put_iff {start there : Location} {path : List String}
    (unpassed : ¬ fs.Passes place maxLinks start path) :
    (fs.put place (.file content)).directoryAt start path = .ok there ↔
      fs.directoryAt start path = .ok there := by
  rw [directoryAt_eq_ok_iff, directoryAt_eq_ok_iff, leads_put_iff nonempty noDirectory _ unpassed,
    directory_put_iff nonempty content noDirectory]

section
variable {path : String}
  (unpassed : ¬ fs.Passes place maxLinks (fs.origin path) (names path))
include unpassed

theorem locate_put_iff {there : Location} :
    (fs.put place (.file content)).locate path = .ok there ↔ fs.locate path = .ok there := by
  rw [locate_eq_ok_iff, locate_eq_ok_iff]
  exact and_congr_right fun _ => leads_put_iff nonempty noDirectory content unpassed

theorem scan_put_iff {there : Location} :
    (fs.put place (.file content)).scan path = .ok there ↔ fs.scan path = .ok there := by
  rw [scan_eq_ok_iff, scan_eq_ok_iff, locate_put_iff nonempty noDirectory content unpassed,
    directory_put_iff nonempty content noDirectory]

theorem isDirectory_put :
    (fs.put place (.file content)).isDirectory path = fs.isDirectory path := by
  rw [Bool.eq_iff_iff, isDirectory_iff, isDirectory_iff]
  simp only [scan_put_iff nonempty noDirectory content unpassed]

end

end

/-! ## Searches -/

/-- That a path is that of a link with a name looked for, in a directory below a root. -/
def FindsLink (fs : FileSystem) (extensions : List String) (root path : String) : Prop :=
  ∃ directory there above name target, fs.scan root = .ok directory ∧
    fs.Reaches directory root there above ∧ EntryName name ∧ EndsLikeOne extensions name ∧
    fs.entry? (there ++ [name]) = some (.link target) ∧ path = joinPath above name

/-- That a search does not pass the link at a place, neither on the way to its root nor by a link that
    it looks at. -/
structure SearchedApart (fs : FileSystem) (extensions : List String) (root : String)
    (place : Location) : Prop where
  way : ¬ fs.Passes place maxLinks (fs.origin root) (names root)
  links : ∀ path, fs.FindsLink extensions root path →
    ¬ fs.Passes place maxLinks (fs.origin path) (names path)

theorem SearchedApart.mono {extensions more : List String} {root : String}
    (apart : fs.SearchedApart more root place) (fewer : extensions ⊆ more) :
    fs.SearchedApart extensions root place where
  way := apart.way
  links := by
    rintro path ⟨directory, there, above, name, target, scanned, reaches, entry, ends, rest⟩
    exact apart.links path
      ⟨directory, there, above, name, target, scanned, reaches, entry, ends.mono fewer, rest⟩

/-- That no link leads to a place. -/
def Unlinked (fs : FileSystem) (place : Location) : Prop :=
  ∀ directory name target, fs.entry? (directory ++ [name]) = some (.link target) →
    fs.follow true maxLinks directory [name] ≠ .ok place

section
variable {extensions : List String} {root : String}
  (nonempty : place ≠ []) (noDirectory : fs.entry? place ≠ some .directory)
  (apart : fs.SearchedApart extensions root place)
  (unlisted : ∀ directory name, directory ++ [name] = place → ¬ EndsLikeOne extensions name)
  (content : List UInt8)
include nonempty noDirectory apart unlisted

/-- What has a name looked for counts as a file just as it did before. -/
theorem countsAsFile_put_iff {directory there : Location} {above name : String}
    (scanned : fs.scan root = .ok directory) (reaches : fs.Reaches directory root there above)
    (entry : EntryName name) (ends : EndsLikeOne extensions name) :
    (fs.put place (.file content)).CountsAsFile above there name ↔
      fs.CountsAsFile above there name := by
  have other : there ++ [name] ≠ place := fun here => unlisted there name here ends
  rw [CountsAsFile, CountsAsFile, entry?_put_of_ne nonempty _ other]
  refine or_congr_right (and_congr_right ?_)
  rintro ⟨target, link⟩
  rw [isDirectory_put nonempty noDirectory content
    (apart.links _ ⟨_, _, _, _, _, scanned, reaches, entry, ends, link, rfl⟩)]

theorem findFiles_put :
    (fs.put place (.file content)).findFiles root extensions = fs.findFiles root extensions := by
  have directories (at_ : Location) := directory_put_iff nonempty content noDirectory at_
  refine eq_of_increasing (findFiles_increasing ..) (findFiles_increasing ..) fun path => ?_
  simp only [mem_findFiles_iff, scan_put_iff nonempty noDirectory content apart.way]
  refine exists_congr fun directory => and_congr_right fun scanned => ⟨fun found => ?_, fun found => ?_⟩
  · refine found.imp (fun at_ => (directories at_).1) fun reaches entry ends => ?_
    have reaches := reaches.imp fun at_ => (directories at_).1
    exact (countsAsFile_put_iff nonempty noDirectory apart unlisted content scanned reaches entry
      ends).1
  · refine found.imp (fun at_ => (directories at_).2) fun reaches entry ends => ?_
    exact (countsAsFile_put_iff nonempty noDirectory apart unlisted content scanned reaches entry
      ends).2

/-- What is found is read as it was before. -/
theorem read_put_iff (unlinked : fs.Unlinked place) {path : String}
    (found : path ∈ fs.findFiles root extensions) {bytes : List UInt8} :
    (fs.put place (.file content)).read path = .ok bytes ↔ fs.read path = .ok bytes := by
  obtain ⟨directory, scanned, there, above, name, reaches, short, entry, counts, ends, rfl⟩ :=
    mem_findFiles_iff.1 found
  have other : there ++ [name] ≠ place := fun here => unlisted there name here ends
  rcases counts with ⟨old, file⟩ | ⟨⟨target, link⟩, _⟩
  · have directories (at_ : Location) := directory_put_iff nonempty content noDirectory at_
    have scanned' := (scan_put_iff nonempty noDirectory content apart.way).2 scanned
    have reaches' : (fs.put place (.file content)).Reaches directory root there above :=
      reaches.imp fun at_ => (directories at_).2
    have file' : FileSystem.entry? (fs.put place (.file content)) (there ++ [name]) =
        some (.file old) := by rw [entry?_put_of_ne nonempty _ other, file]
    rw [read_joinPath_iff (reaches.scan scanned short) entry file,
      read_joinPath_iff (reaches'.scan scanned' short) entry file']
  · have unpassed := apart.links _ ⟨_, _, _, _, _, scanned, reaches, entry, ends, link, rfl⟩
    rw [read_eq_ok_iff, read_eq_ok_iff]
    simp only [locate_put_iff nonempty noDirectory content unpassed, entry?_put nonempty]
    refine exists_congr fun at_ => and_congr_right fun located => ?_
    rw [if_neg]
    rintro rfl
    -- the way ends at an entry of the name looked for, or at what a link of that name leads to
    obtain ⟨parts, joined⟩ := names_joinPath above
    rcases (locate_eq_ok_iff.1 located).2.last_name (joined entry) entry.toOrdinary with
      last | ⟨_, _, link, leads⟩
    · obtain ⟨before, rfl⟩ := List.getLast?_eq_some_iff.1 last
      exact unlisted before name rfl ends
    · exact unlinked _ _ _ link leads.follow

end

end CallOrigin.File.FileSystem
