import CallOrigin.Markup.Binding
import CallOrigin.Proofs.Matching
import Mathlib.Data.List.Forall2
import Mathlib.Data.List.TakeWhile

/-! # Controls by a scan

The search for a control goes back and forth, but what it finds can be said without that. A control
begins at an opening tag that ends at its first closing bracket and that binds the handler somewhere
between its name and that bracket. Whether it then is a control, where it ends and what it shows
depends on its tag and on what follows, and not on the attribute that binds it. The search finds the
first place at which a control stands.
-/

namespace CallOrigin.Markup

open CallOrigin.Text CallOrigin.Text.Matcher

/-! ## Controls -/

/-- An attribute bound to a handler: one of the names, and the quoted handler behind an equals
    sign. -/
def Binds (names : List String) (handler : String) (text : List Char) : Prop :=
  ∃ name ∈ names, ∃ spelt left right quoted,
    text = spelt ++ left ++ '=' :: right ++ quoted ∧ Spells name.toList spelt ∧
    AllOf isBlank left ∧ AllOf isBlank right ∧ Spells ('"' :: handler.toList ++ ['"']) quoted

/-- An opening tag, up to its closing bracket, that binds a handler behind its name. The name takes
    all word characters that there are. -/
def OpeningTag (names : List String) (handler : String) (tag : List Char) : Prop :=
  ∃ head name before binding after,
    tag = head ++ name ++ before ++ binding ++ after ∧ '>' ∉ tag ∧
    Spells "<asp:".toList head ∧ name ≠ [] ∧ AllOf isWord name ∧
    (before ++ binding).head?.any isWord = false ∧
    AtBoundary (name ++ before).getLast? binding.head? ∧ Binds names handler binding

def ClosingTag (text : List Char) : Prop :=
  ∃ head name blanks, text = head ++ name ++ blanks ++ ['>'] ∧ Spells "</asp:".toList head ∧
    name ≠ [] ∧ AllOf isWord name ∧ AllOf isBlank blanks

/-- The first closing tag in a text, and what stands before it. -/
def FirstClosing (text inner closing : List Char) : Prop :=
  (∃ rest, text = inner ++ closing ++ rest) ∧ ClosingTag closing ∧
  ∀ other tag rest, text = other ++ tag ++ rest → ClosingTag tag → inner.length ≤ other.length

/-- What a control shows, given its opening tag up to the closing bracket and what follows that. -/
inductive Shows (tag after : List Char) : String → Prop where
  | alone : tag.getLast? = some '/' → Shows tag after (String.ofList (tag ++ ['>']))
  | filled {inner closing : List Char} :
    tag.getLast? ≠ some '/' → FirstClosing after inner closing → trimBy isBlank inner ≠ [] →
    Shows tag after (String.ofList (trimBy isBlank inner))
  | blank {inner closing : List Char} :
    tag.getLast? ≠ some '/' → FirstClosing after inner closing → trimBy isBlank inner = [] →
    Shows tag after (String.ofList (tag ++ '>' :: inner ++ closing))

/-- A control at a position of a text. -/
def ControlAt (names : List String) (handler : String) (content : List Char) (i : Nat)
    (text : String) : Prop :=
  ∃ tag after, content.drop i = tag ++ '>' :: after ∧ OpeningTag names handler tag ∧
    Shows tag after text

/-- What the control at the least position shows, or nothing if there is none. -/
inductive Scan (names : List String) (handler : String) (content : List Char) :
    Option String → Prop where
  | found {i : Nat} {text : String} :
    ControlAt names handler content i text →
    (∀ j < i, ∀ other, ¬ ControlAt names handler content j other) →
    Scan names handler content (some text)
  | nothing :
    (∀ i text, ¬ ControlAt names handler content i text) → Scan names handler content none

/-! ## A scan has one answer -/

theorem eq_of_append_end {a b : List Char} {x y : List Char} (left : '>' ∉ a) (right : '>' ∉ b)
    (same : a ++ '>' :: x = b ++ '>' :: y) : a = b ∧ x = y := by
  induction a generalizing b with
  | nil =>
      cases b with
      | nil => exact ⟨rfl, (List.cons.inj same).2⟩
      | cons c b =>
          have first := (List.cons.inj same).1
          simp [← first] at right
  | cons c a ih =>
      cases b with
      | nil =>
          have first := (List.cons.inj same).1
          simp [first] at left
      | cons d b =>
          obtain ⟨first, rest⟩ := List.cons.inj same
          obtain ⟨tags, afters⟩ := ih (fun inside => left (List.mem_cons_of_mem c inside))
            (fun inside => right (List.mem_cons_of_mem d inside)) rest
          exact ⟨by rw [first, tags], afters⟩

theorem not_mem_of_spells {pattern text : List Char} (absent : '>' ∉ pattern)
    (spells : Spells pattern text) : '>' ∉ text := by
  induction spells with
  | nil => exact List.not_mem_nil
  | cons same _ ih =>
      obtain ⟨here, absent⟩ := not_or.mp (mt List.mem_cons.mpr absent)
      rw [List.mem_cons]
      rintro (rfl | later)
      · rw [sameLetter_comm, sameLetter_sign (by decide) (by decide)] at same
        exact here same.symm
      · exact ih absent later

theorem not_mem_of_allOf {p : Char → Bool} (excluded : p '>' = false) {text : List Char}
    (all : AllOf p text) : '>' ∉ text := by
  intro inside
  rw [all _ inside] at excluded
  cases excluded

theorem ClosingTag.eq_append {text : List Char} (closing : ClosingTag text) :
    ∃ start, text = start ++ ['>'] ∧ '>' ∉ start := by
  obtain ⟨head, name, blanks, rfl, spells, _, word, blank⟩ := closing
  refine ⟨head ++ name ++ blanks, rfl, ?_⟩
  have inHead := not_mem_of_spells (by decide) spells
  have inName := not_mem_of_allOf (by decide) word
  have inBlanks := not_mem_of_allOf (by decide) blank
  simp [inHead, inName, inBlanks]

theorem FirstClosing.unique {text inner closing inner' closing' : List Char}
    (one : FirstClosing text inner closing) (other : FirstClosing text inner' closing') :
    inner = inner' ∧ closing = closing' := by
  obtain ⟨⟨rest, split⟩, tag, first⟩ := one
  obtain ⟨⟨rest', split'⟩, tag', first'⟩ := other
  have lengths : inner.length = inner'.length :=
    Nat.le_antisymm (first _ _ _ split' tag') (first' _ _ _ split tag)
  rw [split, List.append_assoc, List.append_assoc] at split'
  obtain ⟨inners, tails⟩ := List.append_inj split' lengths
  obtain ⟨start, rfl, absent⟩ := tag.eq_append
  obtain ⟨start', rfl, absent'⟩ := tag'.eq_append
  rw [List.append_assoc, List.append_assoc] at tails
  obtain ⟨starts, _⟩ := eq_of_append_end absent absent' tails
  exact ⟨inners, by rw [starts]⟩

theorem Shows.unique {tag after : List Char} {text text' : String} (one : Shows tag after text)
    (other : Shows tag after text') : text = text' := by
  cases one with
  | alone closed =>
      cases other with
      | alone => rfl
      | filled unclosed => exact absurd closed unclosed
      | blank unclosed => exact absurd closed unclosed
  | filled unclosed first shown =>
      cases other with
      | alone closed => exact absurd closed unclosed
      | filled _ first' =>
          obtain ⟨rfl, _⟩ := first.unique first'
          rfl
      | blank _ first' nothing =>
          obtain ⟨rfl, _⟩ := first.unique first'
          exact absurd nothing shown
  | blank unclosed first nothing =>
      cases other with
      | alone closed => exact absurd closed unclosed
      | filled _ first' shown =>
          obtain ⟨rfl, _⟩ := first.unique first'
          exact absurd nothing shown
      | blank _ first' =>
          obtain ⟨rfl, rfl⟩ := first.unique first'
          rfl

theorem OpeningTag.not_mem {names : List String} {handler : String} {tag : List Char}
    (opening : OpeningTag names handler tag) : '>' ∉ tag := by
  obtain ⟨_, _, _, _, _, _, absent, _⟩ := opening
  exact absent

theorem ControlAt.unique {names : List String} {handler : String} {content : List Char} {i : Nat}
    {text text' : String} (one : ControlAt names handler content i text)
    (other : ControlAt names handler content i text') : text = text' := by
  obtain ⟨tag, after, split, opening, shows_⟩ := one
  obtain ⟨tag', after', split', opening', shows'⟩ := other
  obtain ⟨rfl, rfl⟩ :=
    eq_of_append_end opening.not_mem opening'.not_mem (split.symm.trans split')
  exact shows_.unique shows'

theorem Scan.unique {names : List String} {handler : String} {content : List Char}
    {first second : Option String} (one : Scan names handler content first)
    (other : Scan names handler content second) : first = second := by
  cases one with
  | nothing none =>
      cases other with
      | nothing => rfl
      | found control => exact absurd control (none _ _)
  | @found i text control least =>
      cases other with
      | nothing none => exact absurd control (none _ _)
      | @found j text' control' least' =>
          have same : i = j := by
            refine Nat.le_antisymm ?_ ?_
            · exact Nat.not_lt.mp fun below => least j below _ control'
            · exact Nat.not_lt.mp fun below => least' i below _ control
          subst same
          rw [control.unique control']

/-! ## Where the search ends -/

/-- What is found of a control behind its opening tag: its content up to the first closing tag. -/
def contentEnd (content : List Char) : Option Found :=
  Matcher.fewest (fun _ => true)
    (fun close => closingTag
      (fun after => some
        ⟨some (content.take (content.length - close.rest.length)), after.rest⟩) close)
    ⟨some '>', content⟩

/-- What is found of a control, given its opening tag up to the closing bracket and what follows. -/
def ending (tag after : List Char) : Option Found :=
  if tag.getLast? = some '/' then some ⟨none, after⟩ else contentEnd after

theorem controlEnd_bracket (before : Option Char) (after : List Char) :
    controlEnd ⟨before, '>' :: after⟩ = contentEnd after := by
  have slash : ¬ sameLetter '/' '>' := by decide
  have bracket : sameLetter '>' '>' := by decide
  simp [controlEnd, Matcher.letters, slash, bracket, contentEnd]

theorem controlEnd_inTag (before : Option Char) {c : Char} (inside : c ≠ '>') (rest : List Char) :
    controlEnd ⟨before, c :: rest⟩ =
      if c = '/' ∧ rest.head? = some '>' then some ⟨none, rest.tail⟩ else none := by
  have bracket (d : Char) : sameLetter '>' d = true ↔ d = '>' :=
    sameLetter_sign (by decide) (by decide) d
  have slash (d : Char) : sameLetter '/' d = true ↔ d = '/' :=
    sameLetter_sign (by decide) (by decide) d
  cases rest with
  | nil => simp [controlEnd, Matcher.letters, bracket, inside]
  | cons d rest =>
      by_cases first : c = '/'
      · by_cases second : d = '>'
        · simp [controlEnd, Matcher.letters, bracket, slash, first, second]
        · simp [controlEnd, Matcher.letters, bracket, first, second]
      · simp [controlEnd, Matcher.letters, bracket, slash, first, inside]

theorem fewest_controlEnd {left : List Char} (absent : '>' ∉ left) (before : Option Char)
    (after : List Char) :
    Matcher.fewest inTag controlEnd ⟨before, left ++ '>' :: after⟩ = ending left after := by
  induction left generalizing before with
  | nil => simp [Matcher.fewest, Matcher.fewestFrom, controlEnd_bracket, inTag, ending]
  | cons c left ih =>
      obtain ⟨here, absent⟩ := not_or.mp (mt List.mem_cons.mpr absent)
      have more := ih absent (some c)
      simp only [Matcher.fewest] at more
      have inside : inTag c = true := by simpa [inTag] using Ne.symm here
      simp only [Matcher.fewest, List.cons_append, Matcher.fewestFrom, inside, if_true, more,
        controlEnd_inTag before (Ne.symm here)]
      cases left with
      | nil =>
          by_cases slash : c = '/'
          · simp [slash, ending]
          · simp [slash, ending]
      | cons d left =>
          obtain ⟨next, _⟩ := not_or.mp (mt List.mem_cons.mpr absent)
          simp [Ne.symm next, ending]

theorem fewest_controlEnd_eq_none {rest : List Char} (absent : '>' ∉ rest) (before : Option Char) :
    Matcher.fewest inTag controlEnd ⟨before, rest⟩ = none := by
  induction rest generalizing before with
  | nil => rfl
  | cons c rest ih =>
      obtain ⟨here, absent⟩ := not_or.mp (mt List.mem_cons.mpr absent)
      have more := ih absent (some c)
      simp only [Matcher.fewest] at more
      have open_ : rest.head? ≠ some '>' := fun closed => absent (List.mem_of_head? closed)
      simp [Matcher.fewest, Matcher.fewestFrom, more, controlEnd_inTag before (Ne.symm here), open_]

/-! ## What the search finds at a place -/

theorem spells_sign_iff {p : Char} (positive : 0 < p.toNat) (small : p.toNat < 0x41)
    (text : List Char) : Spells [p] text ↔ text = [p] := by
  constructor
  · intro spells
    cases spells with
    | cons same rest =>
        cases rest
        rw [(sameLetter_sign positive small _).mp same]
  · rintro rfl
    exact .cons ((sameLetter_sign positive small p).mpr rfl) .nil

theorem Binds.getLast? {names : List String} {handler : String} {binding : List Char}
    (binds : Binds names handler binding) : binding.getLast? = some '"' := by
  obtain ⟨_, _, spelt, left, right, quoted, rfl, _, _, _, spells⟩ := binds
  have backwards := List.forall₂_reverse_iff.mpr spells
  rw [List.reverse_append] at backwards
  cases last : quoted.reverse with
  | nil =>
      rw [last] at backwards
      cases backwards
  | cons c rest =>
      rw [last] at backwards
      cases backwards with
      | cons same _ =>
          rw [sameLetter_sign (by decide) (by decide)] at same
          rw [List.getLast?_append, ← List.head?_reverse, last, same]
          rfl

theorem Binds.not_mem {names : List String} {handler : String}
    (namesOpen : ∀ name ∈ names, '>' ∉ name.toList) (handlerOpen : '>' ∉ handler.toList)
    {binding : List Char} (binds : Binds names handler binding) : '>' ∉ binding := by
  obtain ⟨name, listed, spelt, left, right, quoted, rfl, spells, leftBlank, rightBlank, quotes⟩ :=
    binds
  have inName := not_mem_of_spells (namesOpen name listed) spells
  have inLeft := not_mem_of_allOf (by decide) leftBlank
  have inRight := not_mem_of_allOf (by decide) rightBlank
  have inQuoted := not_mem_of_spells (by simpa using handlerOpen) quotes
  simp [inName, inLeft, inRight, inQuoted]

theorem Binds.head?_append {names : List String} {handler : String} {binding : List Char}
    (binds : Binds names handler binding) (rest : List Char) :
    (binding ++ rest).head? = binding.head? := by
  refine List.head?_append_of_ne_nil _ ?_
  rintro rfl
  cases binds.getLast?

/-- The place behind a name and what follows it has the last character of these before it. -/
theorem before_of_passes {at_ middle there : Cursor} {name rest : List Char} (nonempty : name ≠ [])
    (first : Passes at_ name middle) (second : Passes middle rest there) :
    there.before = (name ++ rest).getLast? := by
  rw [second.before_eq, first.before_eq, List.getLast?_append, ← Option.or_assoc,
    Option.or_of_isSome]
  simp [nonempty]

/-- The search goes from the beginning of a tag to a place behind an attribute that is bound. -/
theorem controlAt_sound {events : List String} {handler : String} {at_ : Cursor} {f : Found}
    (found : controlAt events handler at_ = some f) :
    ∃ head name before binding there,
      at_.rest = head ++ name ++ before ++ binding ++ there.rest ∧
      Spells "<asp:".toList head ∧ name ≠ [] ∧ AllOf isWord name ∧ AllOf inTag before ∧
      AtBoundary (name ++ before).getLast? binding.head? ∧
      Binds (spellings events) handler binding ∧
      Matcher.fewest inTag controlEnd there = some f := by
  obtain ⟨_, ⟨head, headSpells, passHead⟩, found⟩ := (leads_letters _).sound found
  obtain ⟨_, ⟨name, ⟨nonempty, word⟩, passName⟩, found⟩ := (leads_some1 _).sound found
  obtain ⟨_, ⟨before, inside, passBefore⟩, found⟩ := (leads_fewest _).sound found
  obtain ⟨_, ⟨rfl, boundary⟩, found⟩ := leads_boundary.sound found
  obtain ⟨_, ⟨spelt, ⟨event, listed, eventSpells⟩, passEvent⟩, found⟩ :=
    (leads_spelling _).sound found
  obtain ⟨_, ⟨left, leftBlank, passLeft⟩, found⟩ := (leads_most _).sound found
  obtain ⟨_, ⟨equals, equalsSpells, passEquals⟩, found⟩ := (leads_letters _).sound found
  obtain ⟨_, ⟨right, rightBlank, passRight⟩, found⟩ := (leads_most _).sound found
  obtain ⟨there, ⟨quoted, quotedSpells, passQuoted⟩, found⟩ := (leads_letters _).sound found
  cases (spells_sign_iff (by decide) (by decide) equals).mp equalsSpells
  have ahead := passEvent.rest_eq
  rw [passLeft.rest_eq, passEquals.rest_eq, passRight.rest_eq, passQuoted.rest_eq] at ahead
  have binds : Binds (spellings events) handler (spelt ++ left ++ '=' :: right ++ quoted) :=
    ⟨event, listed, spelt, left, right, quoted, rfl, eventSpells, leftBlank, rightBlank,
      quotedSpells⟩
  refine ⟨head, name, before, _, there, ?_, headSpells, nonempty, word, inside, ?_, binds, found⟩
  · rw [passHead.rest_eq, passName.rest_eq, passBefore.rest_eq, ahead]
    simp
  · rw [before_of_passes nonempty passName passBefore, ahead] at boundary
    rw [← binds.head?_append there.rest]
    simpa using boundary

/-- Whatever attribute is bound, the search has a result where there is one behind it. -/
theorem controlAt_complete {events : List String} {handler : String}
    {head name before binding rest : List Char} (headSpells : Spells "<asp:".toList head)
    (nonempty : name ≠ []) (word : AllOf isWord name) (inside : AllOf inTag before)
    (boundary : AtBoundary (name ++ before).getLast? binding.head?)
    (binds : Binds (spellings events) handler binding) (start : Option Char)
    (result : ∀ last, Matcher.fewest inTag controlEnd ⟨last, rest⟩ ≠ none) :
    controlAt events handler ⟨start, head ++ (name ++ (before ++ (binding ++ rest)))⟩ ≠ none := by
  rw [← binds.head?_append rest] at boundary
  obtain ⟨event, listed, spelt, left, right, quoted, rfl, eventSpells, leftBlank, rightBlank,
    quotedSpells⟩ := binds
  have regroup : spelt ++ left ++ '=' :: right ++ quoted ++ rest =
      spelt ++ (left ++ (['='] ++ (right ++ (quoted ++ rest)))) := by simp
  rw [regroup] at boundary ⊢
  have passName := passes_append (head.getLast?.or start) name
    (before ++ (spelt ++ (left ++ (['='] ++ (right ++ (quoted ++ rest))))))
  have passBefore := passes_append (name.getLast?.or (head.getLast?.or start)) before
    (spelt ++ (left ++ (['='] ++ (right ++ (quoted ++ rest)))))
  have equalsSpells : Spells ['='] ['='] :=
    (spells_sign_iff (by decide) (by decide) _).mpr rfl
  refine (leads_letters _).complete ⟨head, headSpells, passes_append ..⟩ ?_
  refine (leads_some1 _).complete ⟨name, ⟨nonempty, word⟩, passName⟩ ?_
  refine (leads_fewest _).complete ⟨before, inside, passBefore⟩ ?_
  refine leads_boundary.complete ⟨rfl, ?_⟩ ?_
  · rw [before_of_passes nonempty passName passBefore]
    exact boundary
  refine (leads_spelling _).complete ⟨spelt, ⟨event, listed, eventSpells⟩, passes_append ..⟩ ?_
  refine (leads_most _).complete ⟨left, leftBlank, passes_append ..⟩ ?_
  refine (leads_letters _).complete ⟨['='], equalsSpells, passes_append ..⟩ ?_
  refine (leads_most _).complete ⟨right, rightBlank, passes_append ..⟩ ?_
  exact (leads_letters _).complete ⟨quoted, quotedSpells, passes_append ..⟩ (result _)

/-- A name can be read on to its last word character, since no boundary stands inside of it. -/
theorem exists_whole_name {name before : List Char} (nonempty : name ≠ []) (word : AllOf isWord name)
    {next : Option Char} (boundary : AtBoundary (name ++ before).getLast? next) :
    ∃ whole rest, whole ++ rest = name ++ before ∧ whole ≠ [] ∧ AllOf isWord whole ∧
      (rest.head?.or next).any isWord = false := by
  refine ⟨name ++ before.takeWhile isWord, before.dropWhile isWord, ?_, ?_, ?_, ?_⟩
  · rw [List.append_assoc, List.takeWhile_append_dropWhile]
  · simp [nonempty]
  · intro c inside
    rcases List.mem_append.mp inside with inName | inBefore
    · exact word c inName
    · exact List.mem_takeWhile_imp inBefore
  · cases rest : before.dropWhile isWord with
    | nil =>
        have wordBefore : AllOf isWord before := List.dropWhile_eq_nil_iff.mp rest
        have wordAll : AllOf isWord (name ++ before) := List.forall_mem_append.mpr ⟨word, wordBefore⟩
        have last : (name ++ before).getLast?.any isWord = true := by
          rw [List.getLast?_eq_getLast_of_ne_nil (by simp [nonempty])]
          exact wordAll _ (List.getLast_mem _)
        rw [AtBoundary, last] at boundary
        simpa using boundary
    | cons c rest =>
        have other := List.head_dropWhile_not isWord (l := before) (by simp [rest])
        simpa [rest] using other

theorem ending_append {binding : List Char} (quoted : binding.getLast? = some '"')
    (start left after : List Char) :
    ending (start ++ binding ++ left) after = ending left after := by
  unfold ending
  rw [List.getLast?_append, List.getLast?_append, quoted]
  cases left.getLast? with
  | none => simp
  | some c => rfl

theorem mem_spellings {events : List String} {P : String → Prop} (empty : P "")
    (all : ∀ event ∈ events, P event) : ∀ name ∈ spellings events, P name := by
  intro name listed
  unfold spellings at listed
  split at listed
  · rwa [List.mem_singleton.mp listed]
  · exact all name listed

section
variable {events : List String} {handler : String}
  (eventsOpen : ∀ event ∈ events, '>' ∉ event.toList) (handlerOpen : '>' ∉ handler.toList)
include eventsOpen handlerOpen

theorem openingTag_of_controlAt {at_ : Cursor} {f : Found}
    (found : controlAt events handler at_ = some f) :
    ∃ tag after, at_.rest = tag ++ '>' :: after ∧ OpeningTag (spellings events) handler tag ∧
      ending tag after = some f := by
  obtain ⟨head, name, before, binding, ⟨last, ahead⟩, split, headSpells, nonempty, word, inside,
    boundary, binds, found⟩ := controlAt_sound found
  have closed : '>' ∈ ahead := by
    by_contra absent
    rw [fewest_controlEnd_eq_none absent] at found
    cases found
  obtain ⟨left, after, rfl, absent⟩ := List.eq_append_cons_of_mem closed
  rw [fewest_controlEnd absent] at found
  obtain ⟨whole, rest, regroup, wholeNonempty, wholeWord, ends⟩ :=
    exists_whole_name nonempty word boundary
  refine ⟨head ++ (name ++ before) ++ binding ++ left, after, ?_, ?_, ?_⟩
  · rw [split]
    simp
  · refine ⟨head, whole, rest, binding, left, ?_, ?_, headSpells, wholeNonempty, wholeWord, ?_, ?_,
      binds⟩
    · rw [← regroup]
      simp
    · have inHead := not_mem_of_spells (by decide) headSpells
      have inName := not_mem_of_allOf (by decide) word
      have inBefore := not_mem_of_allOf (by decide) inside
      have inBinding := binds.not_mem (mem_spellings (by decide) eventsOpen) handlerOpen
      simp [inHead, inName, inBefore, inBinding, absent]
    · rw [List.head?_append]
      exact ends
    · rw [regroup]
      exact boundary
  · rw [ending_append binds.getLast?]
    exact found

/-- At an opening tag the search finds what the tag and what follows it decide. -/
theorem controlAt_eq_ending {tag : List Char} (opening : OpeningTag (spellings events) handler tag)
    (start : Option Char) (after : List Char) :
    controlAt events handler ⟨start, tag ++ '>' :: after⟩ = ending tag after := by
  have agree (f : Found) (found : controlAt events handler ⟨start, tag ++ '>' :: after⟩ = some f) :
      ending tag after = some f := by
    obtain ⟨tag', after', split, opening', found⟩ :=
      openingTag_of_controlAt eventsOpen handlerOpen found
    obtain ⟨rfl, rfl⟩ := eq_of_append_end opening.not_mem opening'.not_mem split
    exact found
  cases found : controlAt events handler ⟨start, tag ++ '>' :: after⟩ with
  | some f => exact (agree f found).symm
  | none =>
      by_contra result
      obtain ⟨head, name, before, binding, left, rfl, absent, headSpells, nonempty, word, _,
        boundary, binds⟩ := opening
      simp only [List.mem_append, not_or] at absent
      have inside : AllOf inTag before := by
        intro c inBefore
        have apart : c ≠ '>' := fun same => absent.1.1.2 (same ▸ inBefore)
        simpa [inTag] using apart
      have behind (last : Option Char) :
          Matcher.fewest inTag controlEnd ⟨last, left ++ '>' :: after⟩ ≠ none := by
        rw [fewest_controlEnd absent.2, ← ending_append binds.getLast?]
        exact Ne.symm result
      refine controlAt_complete headSpells nonempty word inside boundary binds start behind ?_
      rw [← found]
      simp

end

/-! ## Closing tags -/

theorem leads_closingTag : Leads closingTag (Past ClosingTag) := by
  have bracket := spells_sign_iff (p := '>') (by decide) (by decide)
  refine ⟨?_, ?_⟩
  · intro next at_ f found
    obtain ⟨_, ⟨head, headSpells, passHead⟩, found⟩ := (leads_letters _).sound found
    obtain ⟨_, ⟨name, ⟨nonempty, word⟩, passName⟩, found⟩ := (leads_some1 _).sound found
    obtain ⟨_, ⟨blanks, blank, passBlanks⟩, found⟩ := (leads_most _).sound found
    obtain ⟨there, ⟨last, lastSpells, passLast⟩, found⟩ := (leads_letters _).sound found
    cases (bracket last).mp lastSpells
    exact ⟨there, ⟨_, ⟨head, name, blanks, rfl, headSpells, nonempty, word, blank⟩,
      ((passHead.append passName).append passBlanks).append passLast⟩, found⟩
  · rintro next at_ there ⟨_, ⟨head, name, blanks, rfl, headSpells, nonempty, word, blank⟩, passes⟩
      result
    obtain ⟨_, passes, passLast⟩ := passes.of_append
    obtain ⟨_, passes, passBlanks⟩ := passes.of_append
    obtain ⟨_, passHead, passName⟩ := passes.of_append
    refine (leads_letters _).complete ⟨head, headSpells, passHead⟩ ?_
    refine (leads_some1 _).complete ⟨name, ⟨nonempty, word⟩, passName⟩ ?_
    refine (leads_most _).complete ⟨blanks, blank, passBlanks⟩ ?_
    exact (leads_letters _).complete ⟨['>'], (bracket _).mpr rfl, passLast⟩ result

theorem contentEnd_eq_some {content : List Char} {f : Found} (found : contentEnd content = some f) :
    ∃ inner closing, f.inner = some inner ∧ content = inner ++ closing ++ f.rest ∧
      FirstClosing content inner closing := by
  obtain ⟨inner, close, _, passes, found, first⟩ := fewest_first found
  obtain ⟨there, ⟨closing, isClosing, passClosing⟩, found⟩ := leads_closingTag.sound found
  cases found
  have split : content = inner ++ close.rest := passes.rest_eq
  have whole : content = inner ++ closing ++ there.rest := by
    rw [split, passClosing.rest_eq, List.append_assoc]
  refine ⟨inner, closing, ?_, whole, ⟨_, whole⟩, isClosing, ?_⟩
  · simp [split]
  · intro other tag rest split' isTag
    by_contra earlier
    rw [List.append_assoc] at split'
    have none := first other ⟨_, tag ++ rest⟩ (split' ▸ passes_append _ other _) (by omega)
    exact leads_closingTag.complete ⟨tag, isTag, passes_append ..⟩ (Option.some_ne_none _) none

theorem contentEnd_eq_none {content inner closing : List Char} (none : contentEnd content = none) :
    ¬ FirstClosing content inner closing := by
  rintro ⟨⟨rest, split⟩, isClosing, _⟩
  rw [List.append_assoc] at split
  refine (leads_fewest _).complete ⟨inner, fun _ _ => rfl, split ▸ passes_append _ inner _⟩ ?_ none
  exact leads_closingTag.complete ⟨closing, isClosing, passes_append ..⟩ (Option.some_ne_none _)

/-! ## The search as a scan -/

theorem trimBy_of_bounded {p : Char → Bool} {first last : Char} (left : p first = false)
    (right : p last = false) (middle : List Char) :
    trimBy p (first :: middle ++ [last]) = first :: middle ++ [last] := by
  simp [trimBy, List.dropWhile_cons_of_neg, left, right]

/-- The markup of a control begins and ends with a bracket, so that trimming changes nothing. -/
theorem OpeningTag.trimBy_append {names : List String} {handler : String} {tag : List Char}
    (opening : OpeningTag names handler tag) (middle : List Char) :
    trimBy isBlank (tag ++ middle ++ ['>']) = tag ++ middle ++ ['>'] := by
  obtain ⟨head, name, before, binding, after, rfl, _, headSpells, _⟩ := opening
  have headSpells : Spells ['<', 'a', 's', 'p', ':'] head := headSpells
  cases headSpells with
  | cons same rest =>
      cases (sameLetter_sign (by decide) (by decide) _).mp same
      simp only [List.cons_append]
      exact trimBy_of_bounded (by decide) (by decide) _

theorem take_append_before (first second : List Char) :
    (first ++ second).take ((first ++ second).length - second.length) = first := by
  simp

theorem ClosingTag.trimBy_append {names : List String} {handler : String} {tag closing : List Char}
    (isClosing : ClosingTag closing) (opening : OpeningTag names handler tag) (inner : List Char) :
    trimBy isBlank (tag ++ '>' :: inner ++ closing) = tag ++ '>' :: inner ++ closing := by
  obtain ⟨start, rfl, _⟩ := isClosing.eq_append
  have trimmed := opening.trimBy_append ('>' :: inner ++ start)
  simpa using trimmed

/-- What the search makes of what it finds is what the control shows. -/
theorem shows_of_ending {names : List String} {handler : String} {tag after : List Char}
    (opening : OpeningTag names handler tag) {f : Found} (found : ending tag after = some f) :
    Shows tag after (f.shown ((tag ++ '>' :: after).take
      ((tag ++ '>' :: after).length - f.rest.length))) := by
  unfold ending at found
  split at found
  · rename_i closed
    cases found
    have whole : tag ++ '>' :: after = tag ++ [] ++ ['>'] ++ after := by simp
    rw [whole, take_append_before]
    have shown : Found.shown ⟨none, after⟩ (tag ++ [] ++ ['>']) =
        String.ofList (trimBy isBlank (tag ++ [] ++ ['>'])) := rfl
    rw [shown, opening.trimBy_append, List.append_nil]
    exact .alone closed
  · rename_i unclosed
    obtain ⟨inner, closing, content, split, first⟩ := contentEnd_eq_some found
    have whole : tag ++ '>' :: after = tag ++ '>' :: inner ++ closing ++ f.rest := by
      simp [split]
    rw [whole, take_append_before, Found.shown, content]
    simp only [Option.getD_some, List.isEmpty_iff]
    split
    · rename_i empty
      rw [first.2.1.trimBy_append opening]
      exact .blank unclosed first empty
    · rename_i filled
      exact .filled unclosed first filled

theorem not_shows_of_ending {tag after : List Char} (none : ending tag after = none)
    (text : String) : ¬ Shows tag after text := by
  unfold ending at none
  split at none
  · cases none
  · rename_i unclosed
    intro shown
    cases shown with
    | alone closed => exact unclosed closed
    | filled _ first => exact contentEnd_eq_none none first
    | blank _ first => exact contentEnd_eq_none none first

section
variable {events : List String} {handler : String}
  (eventsOpen : ∀ event ∈ events, '>' ∉ event.toList) (handlerOpen : '>' ∉ handler.toList)
include eventsOpen handlerOpen

theorem controlAt_of_some {before : Option Char} {content : List Char} {f : Found}
    (found : controlAt events handler ⟨before, content⟩ = some f) :
    ControlAt (spellings events) handler content 0
      (f.shown (content.take (content.length - f.rest.length))) := by
  obtain ⟨tag, after, split, opening, ends⟩ :=
    openingTag_of_controlAt eventsOpen handlerOpen found
  cases split
  exact ⟨tag, after, rfl, opening, shows_of_ending opening ends⟩

theorem not_controlAt_of_none {before : Option Char} {content : List Char}
    (none : controlAt events handler ⟨before, content⟩ = none) (text : String) :
    ¬ ControlAt (spellings events) handler content 0 text := by
  rintro ⟨tag, after, split, opening, shown⟩
  rw [List.drop_zero] at split
  rw [split, controlAt_eq_ending eventsOpen handlerOpen opening] at none
  exact not_shows_of_ending none text shown

omit eventsOpen handlerOpen in
theorem Scan.cons {names : List String} {rest : List Char} {answer : Option String}
    (scan : Scan names handler rest answer) {c : Char}
    (notHere : ∀ text, ¬ ControlAt names handler (c :: rest) 0 text) :
    Scan names handler (c :: rest) answer := by
  cases scan with
  | @found i text control least =>
      refine .found (i := i + 1) control ?_
      intro j below other
      cases j with
      | zero => exact notHere other
      | succ j => exact least j (Nat.lt_of_succ_lt_succ below) other
  | nothing none =>
      refine .nothing ?_
      intro i text
      cases i with
      | zero => exact notHere text
      | succ i => exact none i text

theorem scan_searchFrom (before : Option Char) (content : List Char) :
    Scan (spellings events) handler content (searchFrom events handler before content) := by
  induction content generalizing before with
  | nil =>
      refine .nothing ?_
      rintro i text ⟨tag, after, split, _⟩
      simp at split
  | cons c rest ih =>
      unfold searchFrom
      cases found : controlAt events handler ⟨before, c :: rest⟩ with
      | some f => exact .found (controlAt_of_some eventsOpen handlerOpen found) nofun
      | none =>
          exact (ih (some c)).cons (not_controlAt_of_none eventsOpen handlerOpen found)

end

/-- The search is a scan. For every text, every handler and every list of names without a closing
    bracket, what it finds is what the scan answers, where no names at all stand for the empty one. -/
theorem shownBy?_eq_iff_scan {events : List String} {handler : String}
    (eventsOpen : ∀ event ∈ events, '>' ∉ event.toList) (handlerOpen : '>' ∉ handler.toList)
    (content : String) (answer : Option String) :
    shownBy? events content handler = answer ↔
      Scan (spellings events) handler content.toList answer := by
  have scan := scan_searchFrom eventsOpen handlerOpen none content.toList
  constructor
  · rintro rfl
    exact scan
  · exact scan.unique

/-- A control on two lines, between one for another handler and one that is not closed. -/
theorem shownBy?_eq_iff_scan_lines :
    (∀ event ∈ ["OnLoad", "OnClick"], '>' ∉ event.toList) ∧ '>' ∉ "h".toList ∧
      Scan (spellings ["OnLoad", "OnClick"]) "h"
        "<asp:A OnClick=\"x\"/><asp:B\nonclick = \"h\" > Go </asp:B><asp:C OnLoad=\"h\">".toList
        (some "Go") := by
  have eventsOpen : ∀ event ∈ ["OnLoad", "OnClick"], '>' ∉ event.toList := by decide
  have handlerOpen : '>' ∉ "h".toList := by decide
  exact ⟨eventsOpen, handlerOpen,
    (shownBy?_eq_iff_scan eventsOpen handlerOpen _ _).mp (by decide +kernel)⟩

/-- Without names a scan would find nothing, but the search takes any attribute. -/
theorem shownBy?_no_names :
    shownBy? [] "<asp:B x=\"h\"/>" "h" = some "<asp:B x=\"h\"/>" ∧
      Scan [] "h" "<asp:B x=\"h\"/>".toList none := by
  refine ⟨by decide +kernel, .nothing ?_⟩
  rintro i text ⟨tag, after, _, ⟨_, _, _, _, _, _, _, _, _, _, _, _, _, none, _⟩, _⟩
  cases none

end CallOrigin.Markup
