import CallOrigin.Proofs.Indexing

/-! # Looking up handlers

An index remembers its answers. Whatever is looked up, and whenever its pages are cleared, it
answers as a search without memory would have answered when the handler was first looked up. As
long as the pages are there, that is the control of the least page that binds one.
-/

namespace CallOrigin

theorem Logged.mapState_events_cons {α β σ : Type} (f : σ → α → Logged (β × σ)) (s : σ) (a : α)
    (rest : List α) :
    (mapState f s (a :: rest)).events =
      (f s a).events ++ (mapState f (f s a).value.2 rest).events := by
  simp [mapState, andThen, quiet]

namespace Markup

/-! ## The least page -/

namespace Page

theorem order_eq : order = textOrder (·.path) (·.content) := rfl

theorem order_trans (a b c : Page) (first : order a b) (second : order b c) : order a c := by
  rw [order_eq] at *
  exact textOrder_trans a b c first second

theorem order_total (a b : Page) : order a b || order b a := by
  rw [order_eq]
  exact textOrder_total a b

theorem order_antisymm (a b : Page) (first : order a b) (second : order b a) : a = b := by
  rw [order_eq] at *
  obtain ⟨samePath, sameContent⟩ := textOrder_both first second
  cases a
  cases b
  cases samePath
  cases sameContent
  rfl

theorem order_iff (a b : Page) :
    order a b ↔ a.path < b.path ∨ (a.path = b.path ∧ a.content ≤ b.content) := by
  simp [order]

end Page

/-- What a search finds for a handler: the control on the least page, by path and content, that
    binds one to it. -/
inductive LeastBound (events : List String) (pages : List Page) (handler : String) :
    Option Control → Prop where
  | bound {p : Page} {text : String} :
    p ∈ pages →
    shownBy? events p.content handler = some text →
    (∀ q ∈ pages, shownBy? events q.content handler ≠ none →
      p.path < q.path ∨ (p.path = q.path ∧ p.content ≤ q.content)) →
    LeastBound events pages handler (some ⟨p.path, text⟩)
  | unbound :
    (∀ p ∈ pages, shownBy? events p.content handler = none) →
    LeastBound events pages handler none

/-- The control that a search without memory finds. -/
def search (events : List String) (pages : List Page) (handler : String) : Option Control :=
  control? events (pages.mergeSort Page.order) handler

theorem leastBound_search (events : List String) (pages : List Page) (handler : String) :
    LeastBound events pages handler (search events pages handler) := by
  cases found : search events pages handler with
  | none =>
      refine .unbound ?_
      intro p inside
      have none := List.findSome?_eq_none_iff.mp found p (List.mem_mergeSort.mpr inside)
      exact Option.map_eq_none_iff.mp none
  | some c =>
      obtain ⟨before, p, after, sorted, bound, unbound⟩ := List.findSome?_eq_some_iff.mp found
      obtain ⟨text, shown, rfl⟩ := Option.map_eq_some_iff.mp bound
      have ordered := List.pairwise_mergeSort Page.order_trans Page.order_total pages
      rw [sorted, List.pairwise_append] at ordered
      refine .bound (List.mem_mergeSort.mp (by rw [sorted]; simp)) shown ?_
      intro q inside shows
      have place : q ∈ before ++ p :: after := by
        rw [← sorted]
        exact List.mem_mergeSort.mpr inside
      rw [← Page.order_iff]
      rcases List.mem_append.mp place with early | late
      · exact absurd (Option.map_eq_none_iff.mp (unbound q early)) shows
      · rcases List.mem_cons.mp late with rfl | late
        · simpa using Page.order_total q q
        · exact List.rel_of_pairwise_cons ordered.2.1 late

theorem LeastBound.unique {events : List String} {pages : List Page} {handler : String}
    {first second : Option Control} (one : LeastBound events pages handler first)
    (other : LeastBound events pages handler second) : first = second := by
  cases one with
  | unbound none =>
      cases other with
      | unbound => rfl
      | bound inside shown _ => cases (none _ inside).symm.trans shown
  | @bound p text inside shown least =>
      cases other with
      | unbound none => cases (none _ inside).symm.trans shown
      | @bound q text' inside' shown' least' =>
          have below := least q inside' (by simp [shown'])
          have above := least' p inside (by simp [shown])
          rw [← Page.order_iff] at below above
          cases Page.order_antisymm p q below above
          cases shown.symm.trans shown'
          rfl

theorem leastBound_iff (events : List String) (pages : List Page) (handler : String)
    (answer : Option Control) :
    LeastBound events pages handler answer ↔ answer = search events pages handler := by
  constructor
  · intro least
    exact least.unique (leastBound_search events pages handler)
  · rintro rfl
    exact leastBound_search events pages handler

/-! ## Steps -/

inductive Step where
  | find (handler : String)
  | clear
deriving DecidableEq

inductive Reply where
  | found (control : Option Control)
  | cleared
deriving DecidableEq

def Index.perform (x : Index) : Step → Logged (Reply × Index)
  | .find handler => (x.find handler).andThen fun (control, x) => .quiet (.found control, x)
  | .clear => .quiet (.cleared, x.clearPages)

/-- The replies to steps taken one after the other, the index after them and what happened. -/
def Index.performAll (x : Index) (steps : List Step) : Logged (List Reply × Index) :=
  Logged.mapState perform x steps

/-- The steps before a handler is first looked up. -/
def before (handler : String) (steps : List Step) : List Step :=
  steps.takeWhile (· != .find handler)

theorem before_of_mem {handler : String} {past : List Step} (looked : .find handler ∈ past)
    (later : List Step) : before handler (past ++ later) = before handler past := by
  induction past with
  | nil => cases looked
  | cons step past ih =>
      by_cases here : step = .find handler
      · simp [before, here]
      · have looked := (List.mem_cons.mp looked).resolve_left (Ne.symm here)
        simpa [before, here] using ih looked

theorem before_of_not_mem {handler : String} {past : List Step} (fresh : .find handler ∉ past)
    (later : List Step) : before handler (past ++ .find handler :: later) = past := by
  induction past with
  | nil => simp [before]
  | cons step past ih =>
      obtain ⟨here, fresh⟩ := not_or.mp (mt List.mem_cons.mpr fresh)
      simpa [before, Ne.symm here] using ih fresh

/-- The answer that a run settles on for a handler: what is bound to it, unless the pages were
    cleared before it was first looked up. -/
def settled (bound : String → Option Control) (steps : List Step) (handler : String) :
    Option Control :=
  if .clear ∈ before handler steps then none else bound handler

theorem settled_of_mem {handler : String} {past : List Step} (looked : .find handler ∈ past)
    (bound : String → Option Control) (later : List Step) :
    settled bound (past ++ later) handler = settled bound past handler := by
  rw [settled, before_of_mem looked, settled]

theorem settled_of_kept {steps : List Step} (kept : .clear ∉ steps)
    (bound : String → Option Control) (handler : String) :
    settled bound steps handler = bound handler := by
  refine if_neg ?_
  intro cleared
  exact kept ((List.takeWhile_sublist _).subset cleared)

/-- An index with the answers that its past settled on, and no other. -/
structure Remembers (events : List String) (pages : List Page) (past : List Step) (x : Index) :
    Prop where
  events_eq : x.events = events
  pages_eq : x.pages = if .clear ∈ past then [] else pages.mergeSort Page.order
  lookup_eq : ∀ handler, x.answers.lookup handler =
    if .find handler ∈ past then some (settled (search events pages) past handler) else none

namespace Remembers

variable {events : List String} {pages : List Page} {past : List Step} {x : Index}

theorem initial (events : List String) (pages : List Page) :
    Remembers events pages [] (.ofPages events pages) where
  events_eq := rfl
  pages_eq := rfl
  lookup_eq _ := rfl

theorem search_now (remembers : Remembers events pages past x) {handler : String}
    (fresh : .find handler ∉ past) :
    control? x.events x.pages handler =
      settled (search events pages) (past ++ [.find handler]) handler := by
  rw [settled, before_of_not_mem fresh, remembers.events_eq, remembers.pages_eq]
  split
  · rfl
  · rfl

/-- Only the first step that looks a handler up adds to what is remembered of it. -/
theorem lookup_next (remembers : Remembers events pages past x) {step : Step} {handler : String}
    (notFirst : .find handler ∈ past ∨ step ≠ .find handler) :
    x.answers.lookup handler =
      if .find handler ∈ past ++ [step] then
        some (settled (search events pages) (past ++ [step]) handler)
      else none := by
  rw [remembers.lookup_eq]
  by_cases looked : .find handler ∈ past
  · simp [looked, settled_of_mem looked]
  · have different := notFirst.resolve_left looked
    simp [looked, different.symm]

theorem clear (remembers : Remembers events pages past x) :
    Remembers events pages (past ++ [.clear]) x.clearPages where
  events_eq := remembers.events_eq
  pages_eq := by simp [Index.clearPages]
  lookup_eq _ := remembers.lookup_next (.inr nofun)

theorem find_known (remembers : Remembers events pages past x) {handler : String}
    (looked : .find handler ∈ past) :
    x.find handler =
      .quiet (settled (search events pages) (past ++ [.find handler]) handler, x) := by
  rw [Index.find, remembers.lookup_eq, if_pos looked, settled_of_mem looked]

theorem find_fresh (remembers : Remembers events pages past x) {handler : String}
    (fresh : .find handler ∉ past) :
    x.find handler =
      let answer := settled (search events pages) (past ++ [.find handler]) handler
      ⟨(answer, { x with answers := (handler, answer) :: x.answers }),
        if answer = none then [.unbound handler] else []⟩ := by
  rw [Index.find, remembers.lookup_eq, if_neg fresh]
  simp only [remembers.search_now fresh, Option.isNone_iff_eq_none]

theorem find_value (remembers : Remembers events pages past x) (handler : String) :
    (x.find handler).value.1 = settled (search events pages) (past ++ [.find handler]) handler := by
  by_cases looked : .find handler ∈ past
  · rw [remembers.find_known looked]
    rfl
  · rw [remembers.find_fresh looked]

theorem find (remembers : Remembers events pages past x) (handler : String) :
    Remembers events pages (past ++ [.find handler]) (x.find handler).value.2 := by
  by_cases looked : .find handler ∈ past
  · rw [remembers.find_known looked]
    refine ⟨remembers.events_eq, by simp [Logged.quiet, remembers.pages_eq], ?_⟩
    intro other
    refine remembers.lookup_next ?_
    by_cases same : other = handler
    · exact .inl (same ▸ looked)
    · exact .inr (by simpa using Ne.symm same)
  · rw [remembers.find_fresh looked]
    refine ⟨remembers.events_eq, by simp [remembers.pages_eq], ?_⟩
    intro other
    by_cases same : other = handler
    · simp [same]
    · have apart : (other == handler) = false := by simpa using same
      rw [List.lookup_cons, apart]
      exact remembers.lookup_next (.inr (by simpa using Ne.symm same))

end Remembers

/-! ## Runs -/

/-- The reply to each step of a run. -/
def reply (bound : String → Option Control) (run : List Step) : Step → Reply
  | .find handler => .found (settled bound run handler)
  | .clear => .cleared

theorem reply_append (bound : String → Option Control) (past : List Step) (step : Step)
    (later : List Step) :
    reply bound (past ++ [step] ++ later) step = reply bound (past ++ [step]) step := by
  cases step with
  | find handler => exact congrArg Reply.found (settled_of_mem (by simp) bound later)
  | clear => rfl

namespace Remembers

variable {events : List String} {pages : List Page} {past : List Step} {x : Index}

theorem perform (remembers : Remembers events pages past x) (step : Step) :
    (x.perform step).value.1 = reply (search events pages) (past ++ [step]) step ∧
      Remembers events pages (past ++ [step]) (x.perform step).value.2 := by
  cases step with
  | find handler =>
      exact ⟨congrArg Reply.found (remembers.find_value handler), remembers.find handler⟩
  | clear => exact ⟨rfl, remembers.clear⟩

theorem performAll (remembers : Remembers events pages past x) (steps : List Step) :
    (x.performAll steps).value.1 = steps.map (reply (search events pages) (past ++ steps)) ∧
      Remembers events pages (past ++ steps) (x.performAll steps).value.2 := by
  induction steps generalizing past x with
  | nil =>
      rw [List.append_nil]
      exact ⟨rfl, remembers⟩
  | cons step steps ih =>
      obtain ⟨replied, next⟩ := remembers.perform step
      obtain ⟨replies, last⟩ := ih next
      rw [List.append_cons]
      refine ⟨?_, last⟩
      rw [List.map_cons, reply_append, ← replied, ← replies]
      rfl

theorem find_events (remembers : Remembers events pages past x) (handler : String) :
    (x.find handler).events =
      if .find handler ∉ past ∧
          settled (search events pages) (past ++ [.find handler]) handler = none then
        [.unbound handler]
      else [] := by
  by_cases looked : .find handler ∈ past
  · rw [remembers.find_known looked]
    simp [Logged.quiet, looked]
  · rw [remembers.find_fresh looked]
    simp [looked]

/-- What happens in a run: each handler that is settled on nothing when it is first looked up is
    an event, once, and there are no others. -/
theorem performAll_events (remembers : Remembers events pages past x) (steps : List Step) :
    ∃ missed : List String, (x.performAll steps).events = missed.map Event.unbound ∧
      missed.Nodup ∧ ∀ handler, handler ∈ missed ↔
        .find handler ∉ past ∧ .find handler ∈ steps ∧
          settled (search events pages) (past ++ steps) handler = none := by
  induction steps generalizing past x with
  | nil => exact ⟨[], rfl, .nil, by simp⟩
  | cons step steps ih =>
      obtain ⟨missed, happened, distinct, listed⟩ := ih (remembers.perform step).2
      rw [Index.performAll, Logged.mapState_events_cons, ← Index.performAll, happened]
      cases step with
      | clear => exact ⟨missed, rfl, distinct, by simpa using listed⟩
      | find handler =>
          have first : settled (search events pages) (past ++ .find handler :: steps) handler =
              settled (search events pages) (past ++ [.find handler]) handler := by
            rw [List.append_cons, settled_of_mem (by simp)]
          have here : (x.perform (.find handler)).events = (x.find handler).events :=
            List.append_nil _
          rw [here, remembers.find_events]
          split
          · rename_i missing
            refine ⟨handler :: missed, rfl, List.nodup_cons.mpr ⟨?_, distinct⟩, ?_⟩
            · -- The other steps have this look-up in their past.
              simp [listed]
            · intro other
              by_cases same : other = handler
              · simp [same, missing, first]
              · simp [same, listed]
          · rename_i present
            refine ⟨missed, rfl, distinct, ?_⟩
            intro other
            by_cases same : other = handler
            · simpa [same, listed, first] using present
            · simp [same, listed]

/-- As long as the pages are there, each call gets the control that a search finds, whatever has
    been looked up before. -/
theorem resolveCalls (remembers : Remembers events pages past x) (kept : .clear ∉ past)
    (g : CallerGraph) (codeBehind : String) (calls : List ApiCall) :
    (CallOrigin.resolveCalls g codeBehind x calls).value.1 = calls.map fun c =>
      { c with
        top := some (g.ascend codeBehind c.caller).top
        control := search events pages (g.ascend codeBehind c.caller).top.name } := by
  have each (x : Index) (c : ApiCall)
      (reached : ∃ past, .clear ∉ past ∧ Remembers events pages past x) :
      (resolveCall g codeBehind x c).value =
        ({ c with
            top := some (g.ascend codeBehind c.caller).top
            control := search events pages (g.ascend codeBehind c.caller).top.name },
          (x.find (g.ascend codeBehind c.caller).top.name).value.2) := by
    obtain ⟨past, kept, remembers⟩ := reached
    have found := remembers.find_value (g.ascend codeBehind c.caller).top.name
    rw [settled_of_kept (by simpa using kept)] at found
    rw [← found]
    rfl
  have keeps (x : Index) (c : ApiCall)
      (reached : ∃ past, .clear ∉ past ∧ Remembers events pages past x) :
      ∃ past, .clear ∉ past ∧
        Remembers events pages past (x.find (g.ascend codeBehind c.caller).top.name).value.2 := by
    obtain ⟨past, kept, remembers⟩ := reached
    exact ⟨_, by simpa using kept, remembers.find _⟩
  exact congrArg Prod.fst (Logged.mapState_value each keeps ⟨past, kept, remembers⟩ calls)

end Remembers

theorem Index.ofPages_perm (events : List String) {pages others : List Page}
    (same : pages.Perm others) : ofPages events pages = ofPages events others := by
  rw [ofPages, ofPages, mergeSort_eq_of_perm Page.order_trans Page.order_total
    Page.order_antisymm same]

/-- Remembering answers changes none. In whatever order the pages come, a run of look-ups gives for
    each handler what the least page with a control for it binds, or nothing if the pages were
    cleared before its first look-up; a handler that nothing was found for is reported once; and
    calls are resolved alike after any look-ups. -/
theorem Index.performAll_uncached (events : List String) (pages : List Page) :
    ∃ bound : String → Option Control,
      (∀ handler answer, LeastBound events pages handler answer ↔ answer = bound handler) ∧
      ∀ others, pages.Perm others → ∀ steps,
        ((ofPages events others).performAll steps).value.1 = steps.map (reply bound steps) ∧
        (∃ missed : List String,
          ((ofPages events others).performAll steps).events.map Event.message =
            missed.map ("No markup control bound to " ++ ·) ∧
          missed.Nodup ∧
          ∀ handler, handler ∈ missed ↔
            .find handler ∈ steps ∧ settled bound steps handler = none) ∧
        (.clear ∉ steps → ∀ g codeBehind calls,
          (resolveCalls g codeBehind ((ofPages events others).performAll steps).value.2
              calls).value.1 =
            calls.map fun c =>
              { c with
                top := some (g.ascend codeBehind c.caller).top
                control := bound (g.ascend codeBehind c.caller).top.name }) := by
  refine ⟨search events pages, leastBound_iff events pages, ?_⟩
  intro others same steps
  rw [← ofPages_perm events same]
  have remembers := Remembers.initial events pages
  obtain ⟨replies, last⟩ := remembers.performAll steps
  obtain ⟨missed, happened, distinct, listed⟩ := remembers.performAll_events steps
  refine ⟨replies, ⟨missed, ?_, distinct, ?_⟩, ?_⟩
  · rw [happened, List.map_map]
    rfl
  · intro handler
    simpa using listed handler
  · intro kept g codeBehind calls
    exact last.resolveCalls kept g codeBehind calls

end Markup

end CallOrigin
