import CallOrigin.Console.Wide
import CallOrigin.Proofs.Escaping

/-! # What a console can be relied on for

Which styles a console knows, which names stand for signs and how it lays out a text is its own
matter. What is documented of every console is that text without tags and signs is shown as it is,
that escaped text is never taken for tags, that a style does not change the text, and that a short
line comes out as it stands. Nothing is said of whether output succeeds. `Console.wide` keeps to
this.
-/

namespace CallOrigin

open CallOrigin.Console (Verbatim Faithful isPlain)

namespace Terminal
variable {t : Terminal}

/-- That no name between two colons in a text stands for a sign. -/
def SignFree (t : Terminal) (text : String) : Prop :=
  ∀ before name after, text.toList = before ++ ':' :: (name ++ ':' :: after) →
    t.isSign (String.ofList name) = false

/-- That a text means nothing to a console but itself. -/
structure Plain (t : Terminal) (text : String) : Prop where
  verbatim : Verbatim text.toList
  signFree : t.SignFree text

/-- That a text means nothing to a console but itself once it is escaped. -/
structure Escapable (t : Terminal) (text : String) : Prop where
  faithful : Faithful text.toList
  signFree : t.SignFree text

structure Documented (t : Terminal) : Prop where
  /-- The name of a sign is one word. -/
  signs : ∀ name, t.isSign name = true → ' ' ∉ name.toList
  plain : ∀ text, t.Plain text → t.read text = .ok text
  /-- There is nothing wrong with escaped text. -/
  escaped : ∀ text, ∃ shown, t.read (t.escape text) = .ok shown
  kept : ∀ text, t.Escapable text → t.read (t.escape text) = .ok text
  /-- Words are shown as they are in another style. -/
  styled : ∀ text, (∀ c ∈ text.toList, c.isAlpha = true ∨ c = ' ') →
    t.read ("[dim]" ++ text ++ "[/dim]") = .ok text
  /-- If a line of printable ASCII comes out that there is room for, it comes out as it stands. -/
  short : ∀ text out, (∀ c ∈ text.toList, 0x20 ≤ c.toNat ∧ c.toNat < 0x7F) →
    text.length ≤ t.width → t.layText text = .ok out → out = text ++ "\n"

/-! ## Plain text -/

theorem isPlain_of_digit {c : Char} (digit : c.isDigit = true) :
    (isPlain c && c != ':') = true := by
  have high : 0x20 ≤ c.toNat := Nat.le_trans (by decide) (Char.isDigit_iff_toNat.1 digit).1
  rw [Bool.and_eq_true, bne_iff_ne]
  refine ⟨Console.isPlain_of_high high ?_ ?_, ?_⟩
  all_goals
    rintro rfl
    cases digit

theorem signFree_of_not_mem {text : String} (noColon : ':' ∉ text.toList) : t.SignFree text := by
  intro before name after parts
  simp [parts] at noColon

theorem plain_of_all {text : String} (all : text.toList.all (fun c => isPlain c && c != ':') = true) :
    t.Plain text := by
  have each := List.all_eq_true.1 all
  refine ⟨Console.verbatim_of_plain (List.all_eq_true.2 fun c member => ?_),
    signFree_of_not_mem fun colon => ?_⟩
  · exact (Bool.and_eq_true _ _ ▸ each c member).1
  · exact absurd (each _ colon) (by decide)

/-- A colon and a blank in front of a text make no sign of it. -/
theorem Documented.plain_append (documented : t.Documented) (front : String) {text : String}
    (own : front.toList.all (fun c => isPlain c && c != ':') = true) (plain : t.Plain text) :
    t.Plain (front ++ ": " ++ text) := by
  have each := List.all_eq_true.1 own
  have split : (front ++ ": " ++ text).toList = front.toList ++ ':' :: ' ' :: text.toList := by simp
  constructor
  · have all : (front.toList ++ [':', ' ']).all isPlain = true := by
      rw [List.all_append, Bool.and_eq_true]
      refine ⟨List.all_eq_true.2 fun c member => ?_, by decide⟩
      exact (Bool.and_eq_true _ _ ▸ each c member).1
    have verbatim := Console.verbatim_append all plain.verbatim
    rw [split]
    simpa using verbatim
  · intro before name after parts
    rw [split] at parts
    -- a sign that begins with the colon has a name that begins with the blank
    have atColon (same : ' ' :: text.toList = name ++ ':' :: after) :
        t.isSign (String.ofList name) = false := by
      cases name with
      | nil => cases same
      | cons c name =>
          obtain rfl : ' ' = c := (List.cons.inj same).1
          rw [Bool.eq_false_iff]
          exact fun sign => documented.signs _ sign (by simp)
    rcases List.append_eq_append_iff.1 parts with ⟨more, -, rest⟩ | ⟨more, inFront, rest⟩
    · rcases more with _ | ⟨c, _ | ⟨d, more⟩⟩
      · exact atColon (List.cons.inj rest).2
      · cases rest
      · exact plain.signFree more name after (List.cons.inj (List.cons.inj rest).2).2
    · cases more with
      | nil => exact atColon (List.cons.inj rest).2.symm
      | cons c more =>
          obtain rfl : ':' = c := (List.cons.inj rest).1
          exact absurd (each ':' (by simp [inFront])) (by decide)

end Terminal

/-! ## A wide console -/

namespace Console

theorem wide_read (markup : String) {text : List Char} (shows : shown markup = .ok text) :
    wide.read markup = .ok (String.ofList text) := by
  show ((shown markup).map String.ofList).mapError MarkupError.message = _
  rw [shows]
  rfl

theorem wide_read_error (markup : String) {e : MarkupError} (fails : shown markup = .error e) :
    wide.read markup = .error e.message := by
  show ((shown markup).map String.ofList).mapError MarkupError.message = _
  rw [fails]
  rfl

theorem piecesFrom_words {text : List Char} (words : ∀ c ∈ text, c ≠ '[' ∧ c ≠ '\\') (position : Nat)
    (plain rest : List Char) :
    piecesFrom position plain (text ++ rest) =
      piecesFrom (position + text.length) (text.reverse ++ plain) rest := by
  induction text generalizing position plain with
  | nil => rfl
  | cons c text ih =>
      obtain ⟨⟨noBracket, noSlash⟩, words⟩ := List.forall_mem_cons.1 words
      have noTag : tagBehind? (c :: (text ++ rest)) = none := by simp [tagBehind?, noBracket, noSlash]
      rw [List.cons_append, piecesFrom_of_none noTag, ih words]
      simp only [List.length_cons, List.reverse_cons, List.append_assoc, List.singleton_append]
      congr 1
      omega

theorem isPlain_of_word {c : Char} (word : c.isAlpha = true ∨ c = ' ') : isPlain c = true := by
  rcases word with letter | rfl
  · have high : 0x20 ≤ c.toNat := by
      rcases (Bool.or_eq_true _ _).mp letter with upper | lower
      · have first : 'A'.val ≤ c.val := (of_decide_eq_true upper).1
        exact Nat.le_trans (by decide) first
      · have first : 'a'.val ≤ c.val := of_decide_eq_true ((Bool.and_eq_true _ _).mp lower).1
        exact Nat.le_trans (by decide) first
    refine isPlain_of_high high ?_ ?_
    · rintro rfl
      cases letter
    · rintro rfl
      cases letter
  · decide

theorem pieces_dim {text : String} (words : ∀ c ∈ text.toList, c ≠ '[' ∧ c ≠ '\\') :
    pieces ("[dim]" ++ text ++ "[/dim]") =
      .tag 0 ⟨"dim".toList, none⟩ ::
        ((if text.toList.reverse.isEmpty then [] else [.text text.toList]) ++
          [.tag (5 + text.toList.length) ⟨"/dim".toList, none⟩]) := by
  have split : ("[dim]" ++ text ++ "[/dim]").toList =
      '[' :: ("dim".toList ++ ']' :: (text.toList ++ "[/dim]".toList)) := by simp
  have opening : tagText? ("dim".toList ++ ']' :: (text.toList ++ "[/dim]".toList)) =
      some "dim".toList :=
    tagText?_eq_some_iff.2 ⟨'d', ['i', 'm'], _, rfl, rfl, rfl, by simp [isBracket]⟩
  have closing : tagText? ("/dim".toList ++ ']' :: []) = some "/dim".toList := rfl
  have last (position : Nat) (plain : List Char) : piecesFrom position plain "[/dim]".toList =
      (if plain.isEmpty then [] else [.text plain.reverse]) ++
        [.tag position ⟨"/dim".toList, none⟩] := by
    refine (piecesFrom_tag closing 0 position plain).trans ?_
    rw [piecesFrom]
    exact congrArg (· ++ _) (List.append_nil _)
  calc pieces ("[dim]" ++ text ++ "[/dim]")
      = .tag 0 ⟨"dim".toList, none⟩ :: piecesFrom 5 [] (text.toList ++ "[/dim]".toList) := by
        rw [pieces, split]
        exact piecesFrom_tag opening 0 0 []
    _ = _ := by rw [piecesFrom_words words, last, List.append_nil, List.reverse_reverse]

theorem shown_dim {text : String} (words : ∀ c ∈ text.toList, c.isAlpha = true ∨ c = ' ') :
    shown ("[dim]" ++ text ++ "[/dim]") = .ok text.toList := by
  have plain : ∀ c ∈ text.toList, c ≠ '[' ∧ c ≠ '\\' ∧ isLeftOut c = false :=
    fun c member => isPlain_iff.1 (isPlain_of_word (words c member))
  have noEscape : withoutEscapes text.toList = text.toList :=
    withoutEscapes_eq_of_not_mem fun bracket => (plain _ bracket).1 rfl
  have visible : text.toList.filter (!isLeftOut ·) = text.toList :=
    List.filter_eq_self.2 fun c member => by rw [(plain c member).2.2]; rfl
  have opens (rest : List Piece) :
      showFrom [] (.tag 0 ⟨"dim".toList, none⟩ :: rest) = showFrom ["dim"] rest := rfl
  have closes (position : Nat) :
      showFrom ["dim"] [.tag position ⟨"/dim".toList, none⟩] = .ok [] := rfl
  rw [shown, pieces_dim fun c member => ⟨(plain c member).1, (plain c member).2.1⟩, opens,
    showFrom_stretch (by simp), closes, noEscape, visible]
  exact congrArg Except.ok (List.append_nil _)

theorem wide_documented : wide.Documented where
  signs := fun _ never => absurd never Bool.false_ne_true
  plain := fun text plain => by
    rw [wide_read text (shown_of_verbatim plain.verbatim), String.ofList_toList]
  escaped := fun text => ⟨_, wide_read (escape text) (shown_escape_eq text)⟩
  kept := fun text escapable => by
    have read := wide_read (escape text) (shown_escape_of_faithful escapable.faithful)
    rwa [String.ofList_toList] at read
  styled := fun text words => by rw [wide_read _ (shown_dim words), String.ofList_toList]
  short := fun text out _ _ laid => (Except.ok.inj laid).symm

end Console

end CallOrigin
