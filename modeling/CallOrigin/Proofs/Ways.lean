import CallOrigin.File.Report
import CallOrigin.File.Search

/-! # Where paths lead

A path leads somewhere name by name: up, down into a directory, or on through a link. Where a file
is, or nothing, a way can only end. So two file systems that differ only in where they have files
and where nothing send every path to the same location; what they can differ in is the reason for
which a path leads nowhere.
-/

namespace CallOrigin.File

/-! ## Names -/

theorem namesFrom_append_slash (rest : List Char) (cs : List Char) : ∀ name : List Char,
    namesFrom name (cs ++ '/' :: rest) = namesFrom name cs ++ namesFrom [] rest := by
  induction cs with
  | nil => intro name; rfl
  | cons c cs ih =>
      intro name
      simp only [List.cons_append, namesFrom]
      split
      · rw [ih]; rfl
      · exact ih (c :: name)

theorem namesFrom_of_no_slash {cs : List Char} (no_slash : '/' ∉ cs) : ∀ name : List Char,
    namesFrom name cs = [String.ofList (name.reverse ++ cs)] := by
  induction cs with
  | nil => intro name; simp [namesFrom]
  | cons c cs ih =>
      intro name
      rw [List.mem_cons, not_or] at no_slash
      have other : (c == '/') = false := by simpa using Ne.symm no_slash.1
      rw [namesFrom, other, if_neg Bool.false_ne_true, ih no_slash.2, List.reverse_cons,
        List.append_assoc, List.singleton_append]

theorem EntryName.accepted {name : String} (entry : EntryName name) : Accepted name where
  nonempty := entry.nonempty
  no_null := entry.no_null
  bounded := Nat.lt_of_le_of_lt entry.short (by decide)

theorem EntryName.names_eq {name : String} (entry : EntryName name) : names name = [name] := by
  rw [names, namesFrom_of_no_slash entry.no_slash, List.reverse_nil, List.nil_append,
    String.ofList_toList]

/-- Whether a name can be put right behind a path. -/
def endsOpen (path : String) : Bool :=
  path.isEmpty || path.toList.getLast? == some '/'

theorem joinPath_eq {name : String} (entry : EntryName name) (directory : String) :
    joinPath directory name =
      if endsOpen directory then directory ++ name else directory ++ "/" ++ name := by
  rw [joinPath, entry.relative, if_neg Bool.false_ne_true, endsOpen]

theorem names_joinPath_of_closed {directory name : String} (closed : endsOpen directory = false)
    (entry : EntryName name) : names (joinPath directory name) = names directory ++ [name] := by
  have alone : namesFrom [] name.toList = [name] := entry.names_eq
  have slash : "/".toList = ['/'] := rfl
  rw [joinPath_eq entry, closed, if_neg Bool.false_ne_true, names, String.toList_append,
    String.toList_append, slash, List.append_assoc, List.singleton_append, namesFrom_append_slash,
    alone, names]

/-- A name below a directory is the last name of their path. What is in front of it is the path of the
    directory, without the empty name behind a slash at its end. -/
theorem names_joinPath_of_ne {directory : String} (nonempty : directory ≠ "") :
    ∃ above, (names directory = above ∨ names directory = above ++ [""]) ∧
      ∀ {name : String}, EntryName name → names (joinPath directory name) = above ++ [name] := by
  cases open_ : endsOpen directory with
  | false => exact ⟨names directory, .inl rfl, names_joinPath_of_closed open_⟩
  | true =>
      rcases Bool.or_eq_true_iff.1 open_ with empty | slash
      · exact absurd (String.isEmpty_iff.1 empty) nonempty
      · obtain ⟨before, parts⟩ := List.getLast?_eq_some_iff.1 (beq_iff_eq.1 slash)
        refine ⟨namesFrom [] before, .inr ?_, fun {name} entry => ?_⟩
        · rw [names, parts, namesFrom_append_slash]
          rfl
        · have alone : namesFrom [] name.toList = [name] := entry.names_eq
          rw [joinPath_eq entry, open_, if_pos rfl, names, String.toList_append, parts,
            List.append_assoc, List.singleton_append, namesFrom_append_slash, alone]

theorem names_joinPath (directory : String) :
    ∃ above, ∀ {name : String}, EntryName name →
      names (joinPath directory name) = above ++ [name] := by
  by_cases empty : directory = ""
  · subst empty
    refine ⟨[], fun {name} entry => ?_⟩
    have alone : joinPath "" name = name := by
      rw [joinPath_eq entry, if_pos (by decide), String.empty_append]
    rw [alone, entry.names_eq, List.nil_append]
  · obtain ⟨above, _, parts⟩ := names_joinPath_of_ne empty
    exact ⟨above, parts⟩

theorem isAbsolute_joinPath {directory name : String} (nonempty : directory ≠ "")
    (entry : EntryName name) : isAbsolute (joinPath directory name) = isAbsolute directory := by
  obtain ⟨first, rest, text⟩ : ∃ first rest, directory.toList = first :: rest :=
    List.exists_cons_of_ne_nil (mt String.toList_eq_nil_iff.1 nonempty)
  rw [joinPath_eq entry, isAbsolute, isAbsolute]
  split
  · simp [text]
  · simp [text]

theorem accepted_joinPath_iff {directory name : String} (accepted : Accepted directory)
    (entry : EntryName name) :
    Accepted (joinPath directory name) ↔ (joinPath directory name).utf8ByteSize < maxPath := by
  refine ⟨Accepted.bounded, fun bounded => ⟨?_, ?_, bounded⟩⟩
  · intro empty
    have longer := size_lt_joinPath entry directory
    simp [empty] at longer
  · rw [joinPath_eq entry]
    split
    · simp [accepted.no_null, entry.no_null]
    · simp [accepted.no_null, entry.no_null]

theorem endsOpen_joinPath {name : String} (entry : EntryName name) (directory : String) :
    endsOpen (joinPath directory name) = false := by
  have nonempty : name.toList ≠ [] := by
    rw [Ne, String.toList_eq_nil_iff]
    exact entry.nonempty
  obtain ⟨front, text⟩ : ∃ front, (joinPath directory name).toList = front ++ name.toList := by
    rw [joinPath_eq entry]
    split
    · exact ⟨_, String.toList_append⟩
    · exact ⟨_, String.toList_append⟩
  have last : (front ++ name.toList).getLast? = some (name.toList.getLast nonempty) := by
    rw [List.getLast?_append, List.getLast?_eq_some_getLast nonempty, Option.some_or]
  rw [endsOpen, Bool.or_eq_false_iff, ← Bool.not_eq_true, String.isEmpty_iff,
    ← String.toList_eq_nil_iff, beq_eq_false_iff_ne, text, last]
  constructor
  · simp [nonempty]
  · intro slash
    exact entry.no_slash (Option.some.inj slash ▸ List.getLast_mem nonempty)

namespace FileSystem

/-! ## Entries -/

section
variable {fs : FileSystem} {at_ : Location}

theorem lookup_filter_ne (entries : List (Location × Entry)) (at_ other : Location) :
    (entries.filter (·.1 != at_)).lookup other =
      if other = at_ then none else entries.lookup other := by
  induction entries with
  | nil => simp
  | cons entry entries ih =>
      obtain ⟨key, e⟩ := entry
      by_cases this : key = at_
      · subst this
        rw [List.filter_cons_of_neg (by simp), ih, List.lookup_cons]
        split
        · rfl
        next apart => rw [beq_eq_false_iff_ne.2 apart]
      · rw [List.filter_cons_of_pos (by simpa using this), List.lookup_cons, List.lookup_cons, ih]
        by_cases here : other = key
        · subst here
          simp [this]
        · rw [beq_eq_false_iff_ne.2 here]

theorem entry?_put (nonempty : at_ ≠ []) (e : Entry) (other : Location) :
    FileSystem.entry? (fs.put at_ e) other =
      if other = at_ then some e else fs.entry? other := by
  by_cases root : other = []
  · subst root
    rw [if_neg nonempty.symm]
    rfl
  · have below : other.isEmpty = false := List.isEmpty_eq_false_iff.2 root
    simp only [FileSystem.entry?, below, Bool.false_eq_true, if_false, put, remove,
      List.lookup_append, lookup_filter_ne]
    by_cases here : other = at_
    · simp [here]
    · simp [here, List.lookup_cons, beq_eq_false_iff_ne.2 here]

theorem entry?_put_self (nonempty : at_ ≠ []) (e : Entry) :
    FileSystem.entry? (fs.put at_ e) at_ = some e :=
  (entry?_put nonempty e at_).trans (if_pos rfl)

theorem entry?_put_of_ne (nonempty : at_ ≠ []) (e : Entry) {other : Location}
    (apart : other ≠ at_) : FileSystem.entry? (fs.put at_ e) other = fs.entry? other :=
  (entry?_put nonempty e other).trans (if_neg apart)

theorem put_put (fs : FileSystem) (at_ : Location) (e e' : Entry) :
    (fs.put at_ e).put at_ e' = fs.put at_ e' := by
  simp [put, remove, List.filter_filter]

theorem entry?_eq_none_iff (nonempty : at_ ≠ []) :
    fs.entry? at_ = none ↔ ∀ entry ∈ fs.entries, entry.1 ≠ at_ := by
  have below : at_.isEmpty = false := List.isEmpty_eq_false_iff.2 nonempty
  rw [FileSystem.entry?, below, if_neg Bool.false_ne_true, List.lookup_eq_none_iff]
  simp only [bne_iff_ne, ne_comm]

theorem remove_put (nonempty : at_ ≠ []) (fresh : fs.entry? at_ = none) (e : Entry) :
    (fs.put at_ e).remove at_ = fs := by
  have kept : fs.entries.filter (·.1 != at_) = fs.entries := by
    rw [List.filter_eq_self]
    intro entry inside
    simpa using (entry?_eq_none_iff nonempty).1 fresh entry inside
  simp [put, remove, kept]

theorem put_remove (fs : FileSystem) (at_ : Location) (e : Entry) :
    (fs.remove at_).put at_ e = fs.put at_ e := by
  simp [put, remove, List.filter_filter]

theorem entry?_remove (fs : FileSystem) (nonempty : at_ ≠ []) :
    FileSystem.entry? (fs.remove at_) at_ = none := by
  rw [entry?_eq_none_iff nonempty]
  intro entry inside
  simpa [remove] using (List.mem_filter.1 inside).2

theorem mem_entries {e : Entry} (nonempty : at_ ≠ []) (here : fs.entry? at_ = some e) :
    (at_, e) ∈ fs.entries := by
  rw [FileSystem.entry?, if_neg (by simpa using nonempty)] at here
  obtain ⟨before, after, parts, _⟩ := List.lookup_eq_some_iff.1 here
  simp [parts]

theorem mem_entries_of_link {target : String} (link : fs.entry? at_ = some (.link target)) :
    (at_, .link target) ∈ fs.entries := by
  refine mem_entries ?_ link
  rintro rfl
  cases link

end

/-! ## Ways -/

/-- What a way can only end at: a file, or nothing. -/
def IsEnd (e : Option Entry) : Prop :=
  e = none ∨ ∃ content, e = some (.file content)

theorem not_isEnd_directory : ¬ IsEnd (some .directory) := by
  rintro (nothing | ⟨content, file⟩)
  · cases nothing
  · cases file

theorem not_isEnd_link (target : String) : ¬ IsEnd (some (.link target)) := by
  rintro (nothing | ⟨content, file⟩)
  · cases nothing
  · cases file

/-- That names lead from a directory to a location. Each name is the directory itself, the one
    above, a directory below, a link that is followed, or an end; only a last name can be an end,
    or a link that is not followed. -/
inductive Leads (fs : FileSystem) (last : Bool) :
    Nat → Location → List String → Location → Prop where
  | done {links : Nat} {directory : Location} : Leads fs last links directory [] directory
  | stay {links : Nat} {directory there : Location} {name : String} {rest : List String}
      (same : name = "" ∨ name = ".") (onward : Leads fs last links directory rest there) :
      Leads fs last links directory (name :: rest) there
  | up {links : Nat} {directory there : Location} {rest : List String}
      (onward : Leads fs last links directory.dropLast rest there) :
      Leads fs last links directory (".." :: rest) there
  | ends {links : Nat} {directory : Location} {name : String} (ordinary : Ordinary name)
      (short : name.utf8ByteSize ≤ 255) (ended : IsEnd (fs.entry? (directory ++ [name]))) :
      Leads fs last links directory [name] (directory ++ [name])
  | down {links : Nat} {directory there : Location} {name : String} {rest : List String}
      (ordinary : Ordinary name) (short : name.utf8ByteSize ≤ 255)
      (below : fs.entry? (directory ++ [name]) = some .directory)
      (onward : Leads fs last links (directory ++ [name]) rest there) :
      Leads fs last links directory (name :: rest) there
  | kept {links : Nat} {directory : Location} {name target : String} (ordinary : Ordinary name)
      (short : name.utf8ByteSize ≤ 255)
      (link : fs.entry? (directory ++ [name]) = some (.link target)) (unfollowed : last = false) :
      Leads fs last links directory [name] (directory ++ [name])
  | through {links : Nat} {directory there : Location} {name target : String}
      {rest : List String} (ordinary : Ordinary name) (short : name.utf8ByteSize ≤ 255)
      (link : fs.entry? (directory ++ [name]) = some (.link target))
      (followed : rest ≠ [] ∨ last = true)
      (onward : Leads fs last links (if isAbsolute target then [] else directory)
        (names target ++ rest) there) :
      Leads fs last (links + 1) directory (name :: rest) there

theorem ordinary_of_tests {name : String} (elsewhere : ¬ (name.isEmpty || name == ".") = true)
    (not_up : ¬ (name == "..") = true) : Ordinary name := by
  simp only [Bool.or_eq_true, String.isEmpty_iff, beq_iff_eq, not_or] at elsewhere not_up
  exact ⟨elsewhere.1, elsewhere.2, not_up⟩

theorem leads_of_follow {fs : FileSystem} {last : Bool} {links : Nat} {directory there : Location}
    {path : List String} (followed : fs.follow last links directory path = .ok there) :
    fs.Leads last links directory path there := by
  fun_induction follow fs last links directory path with
  | case1 links directory =>
      cases followed
      exact .done
  | case2 links directory name rest same ih =>
      refine .stay ?_ (ih followed)
      simpa [String.isEmpty_iff] using same
  | case3 links directory name rest elsewhere up ih =>
      rw [beq_iff_eq] at up
      subst up
      exact .up (ih followed)
  | case4 => cases followed
  | case5 links directory name rest elsewhere not_up short here nothing only =>
      rw [← Except.ok.inj followed]
      rw [List.isEmpty_iff] at only
      subst only
      exact .ends (ordinary_of_tests elsewhere not_up) (Nat.le_of_not_lt short) (.inl nothing)
  | case6 => cases followed
  | case7 links directory name rest elsewhere not_up short here below ih =>
      exact .down (ordinary_of_tests elsewhere not_up) (Nat.le_of_not_lt short) below (ih followed)
  | case8 links directory name rest elsewhere not_up short here content file only =>
      rw [← Except.ok.inj followed]
      rw [List.isEmpty_iff] at only
      subst only
      exact .ends (ordinary_of_tests elsewhere not_up) (Nat.le_of_not_lt short)
        (.inr ⟨content, file⟩)
  | case9 => cases followed
  | case10 links directory name rest elsewhere not_up short here target link only =>
      rw [← Except.ok.inj followed]
      simp only [Bool.and_eq_true, List.isEmpty_iff, Bool.not_eq_true'] at only
      obtain ⟨rfl, unfollowed⟩ := only
      exact .kept (ordinary_of_tests elsewhere not_up) (Nat.le_of_not_lt short) link unfollowed
  | case11 => cases followed
  | case12 directory name rest elsewhere not_up short here target link more links ih =>
      refine .through (ordinary_of_tests elsewhere not_up) (Nat.le_of_not_lt short) link ?_
        (ih followed)
      by_cases only : rest = []
      · right
        simpa [only] using more
      · exact .inl only

theorem Leads.follow {fs : FileSystem} {last : Bool} {links : Nat} {directory there : Location}
    {path : List String} (leads : fs.Leads last links directory path there) :
    fs.follow last links directory path = .ok there := by
  induction leads with
  | done => rw [FileSystem.follow]
  | stay same onward ih =>
      rw [FileSystem.follow, if_pos (by simpa [String.isEmpty_iff] using same), ih]
  | up onward ih =>
      rw [FileSystem.follow, if_neg (by decide), if_pos (by decide), ih]
  | ends ordinary short ended =>
      have open_ := Nat.not_lt.2 short
      rcases ended with nothing | ⟨content, file⟩
      · simp [FileSystem.follow, ordinary.nonempty, ordinary.not_here, ordinary.not_above, open_,
          nothing]
      · simp [FileSystem.follow, ordinary.nonempty, ordinary.not_here, ordinary.not_above, open_,
          file]
  | down ordinary short below onward ih =>
      simp [FileSystem.follow, ordinary.nonempty, ordinary.not_here, ordinary.not_above,
        Nat.not_lt.2 short, below, ih]
  | kept ordinary short link unfollowed =>
      simp [FileSystem.follow, ordinary.nonempty, ordinary.not_here, ordinary.not_above,
        Nat.not_lt.2 short, link, unfollowed]
  | through ordinary short link followed onward ih =>
      rw [FileSystem.follow]
      simp only [ordinary.nonempty, ordinary.not_here, ordinary.not_above, Nat.not_lt.2 short, link,
        String.isEmpty_iff, Bool.or_eq_true, beq_iff_eq, or_self, if_false, Bool.and_eq_true,
        List.isEmpty_iff, Bool.not_eq_true']
      rw [if_neg ?_, ih]
      rintro ⟨only, unfollowed⟩
      rcases followed with more | followed
      · exact more only
      · rw [followed] at unfollowed
        cases unfollowed

theorem follow_eq_ok_iff {fs : FileSystem} {last : Bool} {links : Nat}
    {directory there : Location} {path : List String} :
    fs.follow last links directory path = .ok there ↔ fs.Leads last links directory path there :=
  ⟨leads_of_follow, Leads.follow⟩

theorem accept_then_eq_ok_iff {α : Type} {path : String} {next : Except Refusal α} {result : α} :
    (do accept path; next) = .ok result ↔ Accepted path ∧ next = .ok result := by
  rw [← accept_eq_ok_iff]
  cases accept path with
  | error refusal => simp [bind, Except.bind]
  | ok => simp [bind, Except.bind]

theorem resolve_eq_ok_iff {fs : FileSystem} {last : Bool} {path : String} {there : Location} :
    fs.resolve last path = .ok there ↔
      Accepted path ∧ fs.Leads last maxLinks (fs.origin path) (names path) there := by
  rw [resolve, accept_then_eq_ok_iff, follow_eq_ok_iff]

theorem locate_eq_ok_iff {fs : FileSystem} {path : String} {there : Location} :
    fs.locate path = .ok there ↔
      Accepted path ∧ fs.Leads true maxLinks (fs.origin path) (names path) there :=
  resolve_eq_ok_iff

theorem enter_eq_ok_iff {fs : FileSystem} {at_ there : Location} :
    fs.enter at_ = .ok there ↔ at_ = there ∧ fs.entry? there = some .directory := by
  rw [enter]
  split
  next here =>
    rw [Except.ok.injEq]
    exact ⟨fun same => ⟨same, same ▸ here⟩, And.left⟩
  next e other here =>
    refine ⟨nofun, ?_⟩
    rintro ⟨rfl, directory⟩
    exact absurd (Option.some.inj (here.symm.trans directory)) other
  next nothing =>
    refine ⟨nofun, ?_⟩
    rintro ⟨rfl, directory⟩
    cases nothing.symm.trans directory

theorem directoryAt_eq_ok_iff {fs : FileSystem} {start there : Location} {names : List String} :
    fs.directoryAt start names = .ok there ↔
      fs.Leads true maxLinks start names there ∧ fs.entry? there = some .directory := by
  rw [directoryAt, ← follow_eq_ok_iff]
  cases fs.follow true maxLinks start names with
  | error refusal => simp [bind, Except.bind]
  | ok at_ =>
      simp only [bind, Except.bind, enter_eq_ok_iff, Except.ok.injEq]

theorem scan_eq_ok_iff {fs : FileSystem} {path : String} {there : Location} :
    fs.scan path = .ok there ↔ fs.locate path = .ok there ∧ fs.entry? there = some .directory := by
  rw [scan]
  cases fs.locate path with
  | error refusal => simp [bind, Except.bind]
  | ok at_ => simp only [bind, Except.bind, enter_eq_ok_iff, Except.ok.injEq]

theorem isDirectory_iff {fs : FileSystem} {path : String} :
    fs.isDirectory path = true ↔ ∃ there, fs.scan path = .ok there := by
  rw [isDirectory]
  cases fs.scan path with
  | error refusal => simp
  | ok there => simp

theorem read_eq_ok_iff {fs : FileSystem} {path : String} {content : List UInt8} :
    fs.read path = .ok content ↔
      ∃ at_, fs.locate path = .ok at_ ∧ fs.entry? at_ = some (.file content) := by
  rw [FileSystem.read]
  cases fs.locate path with
  | error refusal => simp [bind, Except.bind]
  | ok at_ =>
      simp only [bind, Except.bind, Except.ok.injEq, exists_eq_left']
      split
      next here => simp [here]
      next here => simp [here]
      next other _ =>
        refine ⟨nofun, ?_⟩
        intro here
        exact absurd here (other content)

theorem readText_eq_ok_iff {fs : FileSystem} {path text : String} :
    fs.readText path = .ok text ↔ ∃ content, fs.read path = .ok content ∧ decode content = text := by
  rw [FileSystem.readText]
  cases fs.read path with
  | error refusal => simp [Except.map]
  | ok content => simp [Except.map]

/-- The name of a file, or of nothing, in the current directory leads there. -/
theorem locate_name {fs : FileSystem} {name : String} (entry : EntryName name)
    (ended : IsEnd (fs.entry? (fs.current ++ [name]))) :
    fs.locate name = .ok (fs.current ++ [name]) := by
  refine locate_eq_ok_iff.2 ⟨entry.accepted, ?_⟩
  rw [origin, entry.relative, if_neg Bool.false_ne_true, entry.names_eq]
  exact .ends entry.toOrdinary entry.short ended

theorem read_name {fs : FileSystem} {name : String} {content : List UInt8} (entry : EntryName name)
    (file : fs.entry? (fs.current ++ [name]) = some (.file content)) : fs.read name = .ok content :=
  read_eq_ok_iff.2 ⟨_, locate_name entry (.inr ⟨content, file⟩), file⟩

/-! ### First steps -/

section
variable {fs : FileSystem} {last : Bool} {links : Nat} {directory there : Location} {name : String}
  {rest : List String}

theorem Leads.of_stay (leads : fs.Leads last links directory (name :: rest) there)
    (same : name = "" ∨ name = ".") : fs.Leads last links directory rest there := by
  have special (ordinary : Ordinary name) : False := same.elim ordinary.nonempty ordinary.not_here
  cases leads with
  | stay _ onward => exact onward
  | up => simp at same
  | ends ordinary => exact (special ordinary).elim
  | down ordinary => exact (special ordinary).elim
  | kept ordinary => exact (special ordinary).elim
  | through ordinary => exact (special ordinary).elim

theorem Leads.of_up (leads : fs.Leads last links directory (".." :: rest) there) :
    fs.Leads last links directory.dropLast rest there := by
  cases leads with
  | stay same => simp at same
  | up onward => exact onward
  | ends ordinary => exact absurd rfl ordinary.not_above
  | down ordinary => exact absurd rfl ordinary.not_above
  | kept ordinary => exact absurd rfl ordinary.not_above
  | through ordinary => exact absurd rfl ordinary.not_above

theorem Leads.of_down (leads : fs.Leads last links directory (name :: rest) there)
    (ordinary : Ordinary name) (below : fs.entry? (directory ++ [name]) = some .directory) :
    fs.Leads last links (directory ++ [name]) rest there := by
  cases leads with
  | stay same => exact (same.elim ordinary.nonempty ordinary.not_here).elim
  | up => exact absurd rfl ordinary.not_above
  | ends _ _ ended => exact absurd (below ▸ ended) not_isEnd_directory
  | down _ _ _ onward => exact onward
  | kept _ _ link => cases link.symm.trans below
  | through _ _ link => cases link.symm.trans below

/-- A way through a link goes on from what the link says. -/
theorem Leads.of_link {target : String} (leads : fs.Leads true links directory (name :: rest) there)
    (ordinary : Ordinary name) (link : fs.entry? (directory ++ [name]) = some (.link target)) :
    ∃ fewer, links = fewer + 1 ∧ fs.Leads true fewer
      (if isAbsolute target then [] else directory) (names target ++ rest) there := by
  cases leads with
  | stay same => exact (same.elim ordinary.nonempty ordinary.not_here).elim
  | up => exact absurd rfl ordinary.not_above
  | ends _ _ ended => exact absurd (link ▸ ended) (not_isEnd_link target)
  | down _ _ below => cases link.symm.trans below
  | kept _ _ _ unfollowed => cases unfollowed
  | @through fewer _ _ _ _ _ _ _ own _ onward =>
      cases link.symm.trans own
      exact ⟨fewer, rfl, onward⟩

theorem Leads.nothing_past_end (leads : fs.Leads last links directory (name :: rest) there)
    (ordinary : Ordinary name) (ended : IsEnd (fs.entry? (directory ++ [name]))) : rest = [] := by
  cases leads with
  | stay same => exact (same.elim ordinary.nonempty ordinary.not_here).elim
  | up => exact absurd rfl ordinary.not_above
  | ends => rfl
  | down _ _ below =>
      rw [below] at ended
      exact absurd ended not_isEnd_directory
  | kept => rfl
  | through _ _ link =>
      rw [link] at ended
      exact absurd ended (not_isEnd_link _)

end

/-! ### Whole ways -/

/-- A way stays open where more links may be followed. -/
theorem Leads.more_links {fs : FileSystem} {last : Bool} {links more : Nat}
    {directory there : Location} {path : List String}
    (leads : fs.Leads last links directory path there) (enough : links ≤ more) :
    fs.Leads last more directory path there := by
  induction leads generalizing more with
  | done => exact .done
  | stay same onward ih => exact .stay same (ih enough)
  | up onward ih => exact .up (ih enough)
  | ends ordinary short ended => exact .ends ordinary short ended
  | down ordinary short below onward ih => exact .down ordinary short below (ih enough)
  | kept ordinary short link unfollowed => exact .kept ordinary short link unfollowed
  | through ordinary short link followed onward ih =>
      obtain ⟨more, rfl⟩ := Nat.exists_eq_add_one_of_ne_zero (Nat.ne_zero_of_lt enough)
      exact .through ordinary short link followed (ih (Nat.le_of_succ_le_succ enough))

/-- A way whose last name is ordinary ends at an entry of that name, unless the last name is a
    link, which then leads to the same location. -/
theorem Leads.last_name {fs : FileSystem} {links : Nat} {directory there : Location}
    {path : List String} (leads : fs.Leads true links directory path there) {above : List String}
    {name : String} (parts : path = above ++ [name]) (ordinary : Ordinary name) :
    there.getLast? = some name ∨ ∃ directory target,
      fs.entry? (directory ++ [name]) = some (.link target) ∧
        fs.Leads true links directory [name] there := by
  induction leads generalizing above with
  | done => simp at parts
  | @stay links directory there first rest same onward ih =>
      cases above with
      | nil =>
          cases parts
          rcases same with empty | here
          · exact absurd empty ordinary.nonempty
          · exact absurd here ordinary.not_here
      | cons _ above =>
          cases parts
          exact ih rfl
  | up onward ih =>
      cases above with
      | nil =>
          cases parts
          exact absurd rfl ordinary.not_above
      | cons _ above =>
          cases parts
          exact ih rfl
  | ends _ short ended =>
      cases above with
      | nil =>
          cases parts
          exact .inl (by simp)
      | cons _ above => simp at parts
  | down _ short below onward ih =>
      cases above with
      | nil =>
          cases parts
          cases onward
          exact .inl (by simp)
      | cons _ above =>
          cases parts
          exact ih rfl
  | kept _ short link unfollowed => cases unfollowed
  | @through links directory there first target rest _ short link followed onward ih =>
      cases above with
      | nil =>
          cases parts
          exact .inr ⟨directory, target, link, .through ordinary short link followed onward⟩
      | cons _ above =>
          cases parts
          rcases ih (List.append_assoc ..).symm with last | ⟨directory, target, link, leads⟩
          · exact .inl last
          · exact .inr ⟨directory, target, link, leads.more_links (Nat.le_succ links)⟩

/-- A way to a directory goes on from there, and the links on both parts add up. -/
theorem Leads.append {fs : FileSystem} {links more : Nat} {directory there : Location}
    {path : List String} (leads : fs.Leads true links directory path there)
    (inside : fs.entry? there = some .directory) {last : Bool} {rest : List String}
    {below : Location} (nonempty : rest ≠ []) (onward : fs.Leads last more there rest below) :
    fs.Leads last (links + more) directory (path ++ rest) below := by
  induction leads with
  | done => exact onward.more_links (Nat.le_add_left ..)
  | stay same _ ih => exact .stay same (ih inside onward)
  | up _ ih => exact .up (ih inside onward)
  | ends _ _ stuck =>
      rw [inside] at stuck
      exact absurd stuck not_isEnd_directory
  | down first bounded below _ ih => exact .down first bounded below (ih inside onward)
  | kept _ _ _ unfollowed => cases unfollowed
  | through first bounded link followed _ ih =>
      have onward := ih inside onward
      rw [List.append_assoc] at onward
      rw [Nat.add_right_comm]
      exact .through first bounded link (.inl (by simp [nonempty])) onward

/-- A way on from a directory is a way from there, perhaps with fewer links to follow. -/
theorem Leads.of_append {fs : FileSystem} {links : Nat} {directory there : Location}
    {path : List String} (leads : fs.Leads true links directory path there)
    (inside : fs.entry? there = some .directory) {rest : List String} {below : Location}
    (whole : fs.Leads true links directory (path ++ rest) below) :
    ∃ fewer ≤ links, fs.Leads true fewer there rest below := by
  induction leads with
  | done => exact ⟨_, Nat.le_refl _, whole⟩
  | stay same _ ih => exact ih inside (Leads.of_stay whole same)
  | up _ ih => exact ih inside (Leads.of_up whole)
  | ends _ _ stuck =>
      rw [inside] at stuck
      exact absurd stuck not_isEnd_directory
  | down ordinary _ below _ ih => exact ih inside (Leads.of_down whole ordinary below)
  | kept _ _ _ unfollowed => cases unfollowed
  | through ordinary _ link _ _ ih =>
      rw [List.cons_append] at whole
      obtain ⟨fewer, more, onward⟩ := Leads.of_link whole ordinary link
      cases more
      rw [← List.append_assoc] at onward
      obtain ⟨fewer, less, leads⟩ := ih inside onward
      exact ⟨fewer, Nat.le_succ_of_le less, leads⟩

/-- A slash behind a path makes no difference to where it leads, if it leads on. -/
theorem Leads.of_slash {fs : FileSystem} {links : Nat} {directory there : Location}
    {path : List String} (leads : fs.Leads true links directory path there) {above : List String}
    (parts : path = above ++ [""]) : fs.Leads true links directory above there := by
  induction leads generalizing above with
  | done => simp at parts
  | stay same onward ih =>
      cases above with
      | nil =>
          cases parts
          cases onward
          exact .done
      | cons _ above =>
          cases parts
          exact .stay same (ih rfl)
  | up onward ih =>
      cases above with
      | nil => simp at parts
      | cons _ above =>
          cases parts
          exact .up (ih rfl)
  | ends ordinary short ended =>
      cases above with
      | nil =>
          cases parts
          exact absurd rfl ordinary.nonempty
      | cons _ above => simp at parts
  | down ordinary short below onward ih =>
      cases above with
      | nil =>
          cases parts
          exact absurd rfl ordinary.nonempty
      | cons _ above =>
          cases parts
          exact .down ordinary short below (ih rfl)
  | kept _ _ _ unfollowed => cases unfollowed
  | through ordinary short link _ onward ih =>
      cases above with
      | nil =>
          cases parts
          exact absurd rfl ordinary.nonempty
      | cons _ above =>
          cases parts
          exact .through ordinary short link (.inr rfl) (ih (List.append_assoc ..).symm)

/-- A way to a directory uses directories and links only, so it is open wherever these are. -/
theorem Leads.of_kept {fs fs' : FileSystem} {last : Bool} {links : Nat} {directory there : Location}
    {way : List String} (leads : fs.Leads last links directory way there)
    (kept : ∀ at_, ¬ IsEnd (fs.entry? at_) → fs'.entry? at_ = fs.entry? at_)
    (inside : fs.entry? there = some .directory) : fs'.Leads last links directory way there := by
  have directories : ∀ at_, fs.entry? at_ = some .directory → fs'.entry? at_ = some .directory := by
    intro at_ here
    rw [kept at_ (here ▸ not_isEnd_directory), here]
  have linked : ∀ at_ target, fs.entry? at_ = some (.link target) →
      fs'.entry? at_ = some (.link target) := by
    intro at_ target here
    rw [kept at_ (here ▸ not_isEnd_link target), here]
  induction leads with
  | done => exact .done
  | stay same onward ih => exact .stay same (ih inside)
  | up onward ih => exact .up (ih inside)
  | ends _ _ ended =>
      rw [inside] at ended
      exact absurd ended not_isEnd_directory
  | down ordinary short below onward ih =>
      exact .down ordinary short (directories _ below) (ih inside)
  | kept _ _ link _ => cases link.symm.trans inside
  | through ordinary short link followed onward ih =>
      exact .through ordinary short (linked _ _ link) followed (ih inside)

/-- A link to itself leads nowhere. -/
theorem not_leads_of_self_link {fs : FileSystem} {directory : Location} {name : String}
    (entry : EntryName name) (link : fs.entry? (directory ++ [name]) = some (.link name))
    (links : Nat) (there : Location) :
    ¬ fs.Leads true links directory [name] there := by
  induction links with
  | zero =>
      intro leads
      obtain ⟨fewer, more, _⟩ := leads.of_link entry.toOrdinary link
      cases more
  | succ links ih =>
      intro leads
      obtain ⟨fewer, more, onward⟩ := leads.of_link entry.toOrdinary link
      rw [entry.relative, if_neg Bool.false_ne_true, entry.names_eq, List.append_nil] at onward
      cases more
      exact ih onward

/-! ## File systems with the same ways -/

/-- That two file systems have the same directories and links; where one has neither, the other
    has neither, but it may have a file where the other has none or another. -/
structure SameWays (fs fs' : FileSystem) : Prop where
  current : fs.current = fs'.current
  entry : ∀ at_, fs.entry? at_ = fs'.entry? at_ ∨
    IsEnd (fs.entry? at_) ∧ IsEnd (fs'.entry? at_)

theorem sameWays_put {fs : FileSystem} {at_ : Location} (nonempty : at_ ≠ [])
    (ended : IsEnd (fs.entry? at_)) (content : List UInt8) :
    SameWays fs (fs.put at_ (.file content)) where
  current := rfl
  entry := by
    intro other
    rw [entry?_put nonempty]
    split
    next here =>
      subst here
      exact .inr ⟨ended, .inr ⟨content, rfl⟩⟩
    next => exact .inl rfl

namespace SameWays
variable {fs fs' : FileSystem}

theorem symm (same : SameWays fs fs') : SameWays fs' fs where
  current := same.current.symm
  entry := fun at_ => (same.entry at_).imp Eq.symm And.symm

theorem isEnd (same : SameWays fs fs') {at_ : Location} (ended : IsEnd (fs.entry? at_)) :
    IsEnd (fs'.entry? at_) := by
  rcases same.entry at_ with equal | ⟨_, ended'⟩
  · exact equal ▸ ended
  · exact ended'

theorem entry_eq (same : SameWays fs fs') {at_ : Location} (open_ : ¬ IsEnd (fs.entry? at_)) :
    fs'.entry? at_ = fs.entry? at_ := by
  rcases same.entry at_ with equal | ⟨ended, _⟩
  · exact equal.symm
  · exact absurd ended open_

theorem directory (same : SameWays fs fs') {at_ : Location}
    (here : fs.entry? at_ = some .directory) : fs'.entry? at_ = some .directory := by
  have open_ : ¬ IsEnd (fs.entry? at_) := by
    rw [here]
    exact not_isEnd_directory
  rw [same.entry_eq open_, here]

theorem link (same : SameWays fs fs') {at_ : Location} {target : String}
    (here : fs.entry? at_ = some (.link target)) : fs'.entry? at_ = some (.link target) := by
  have open_ : ¬ IsEnd (fs.entry? at_) := by
    rw [here]
    exact not_isEnd_link target
  rw [same.entry_eq open_, here]

theorem directory_iff (same : SameWays fs fs') (at_ : Location) :
    fs.entry? at_ = some .directory ↔ fs'.entry? at_ = some .directory :=
  ⟨same.directory, same.symm.directory⟩

theorem leads (same : SameWays fs fs') {last : Bool} {links : Nat} {directory there : Location}
    {path : List String} (leads : fs.Leads last links directory path there) :
    fs'.Leads last links directory path there := by
  induction leads with
  | done => exact .done
  | stay here onward ih => exact .stay here ih
  | up onward ih => exact .up ih
  | ends ordinary short ended => exact .ends ordinary short (same.isEnd ended)
  | down ordinary short below onward ih => exact .down ordinary short (same.directory below) ih
  | kept ordinary short link unfollowed => exact .kept ordinary short (same.link link) unfollowed
  | through ordinary short link followed onward ih =>
      exact .through ordinary short (same.link link) followed ih

theorem leads_iff (same : SameWays fs fs') {last : Bool} {links : Nat}
    {directory there : Location} {path : List String} :
    fs.Leads last links directory path there ↔ fs'.Leads last links directory path there :=
  ⟨same.leads, same.symm.leads⟩

theorem origin (same : SameWays fs fs') (path : String) : fs.origin path = fs'.origin path := by
  simp only [FileSystem.origin, same.current]

theorem locate_iff (same : SameWays fs fs') {path : String} {there : Location} :
    fs.locate path = .ok there ↔ fs'.locate path = .ok there := by
  rw [locate_eq_ok_iff, locate_eq_ok_iff, same.origin, same.leads_iff]

theorem scan_iff (same : SameWays fs fs') {path : String} {there : Location} :
    fs.scan path = .ok there ↔ fs'.scan path = .ok there := by
  rw [scan_eq_ok_iff, scan_eq_ok_iff, same.locate_iff, same.directory_iff]

theorem isDirectory (same : SameWays fs fs') (path : String) :
    fs.isDirectory path = fs'.isDirectory path := by
  rw [Bool.eq_iff_iff, isDirectory_iff, isDirectory_iff]
  simp only [same.scan_iff]

end SameWays

end FileSystem

end CallOrigin.File
