import CallOrigin.Proofs.Indexing
import CallOrigin.Proofs.Searches
import Mathlib.Data.List.TakeWhile

/-! # Records in the order of the source

A tree lies on its source if every node's range is inside its parent's and after those of its
earlier siblings. Pre-order is then the order of the source: the walk keeps a stack of trees that
lie one behind the other, so nothing that it comes to begins before what it has passed. Calls are
found in that order, and sorting the calls of files that come in order changes nothing.
-/

namespace CallOrigin

open CallOrigin.File

/-! ## Places in a source -/

namespace Point

/-- The place of an offset in a source, of which every line ends with a line feed. -/
def ofOffset (source : List UInt8) (offset : Nat) : Point where
  row := (source.take offset).count 10
  col := ((source.take offset).reverse.takeWhile (· != 10)).length

def NotAfter (a b : Point) : Prop := a.row < b.row ∨ (a.row = b.row ∧ a.col ≤ b.col)

theorem notAfter_of_append (before more : List UInt8) :
    NotAfter ⟨before.count 10, (before.reverse.takeWhile (· != 10)).length⟩
      ⟨(before ++ more).count 10, ((before ++ more).reverse.takeWhile (· != 10)).length⟩ := by
  simp only [NotAfter, List.count_append, List.reverse_append]
  by_cases broken : 10 ∈ more
  · have lines : 0 < more.count 10 := List.count_pos_iff.mpr broken
    omega
  · have unbroken : more.reverse.takeWhile (· != 10) = more.reverse := by
      rw [List.takeWhile_eq_self_iff]
      intro b inside
      have other : b ≠ 10 := by
        rintro rfl
        exact broken (List.mem_reverse.mp inside)
      simpa using other
    have line : ((more.reverse ++ before.reverse).takeWhile (· != 10)).length =
        more.length + (before.reverse.takeWhile (· != 10)).length := by
      rw [List.takeWhile_append, unbroken]
      simp
    rw [List.count_eq_zero_of_not_mem broken, line]
    omega

/-- A later offset is not at an earlier place. -/
theorem ofOffset_mono (source : List UInt8) {a b : Nat} (order : a ≤ b) :
    (ofOffset source a).NotAfter (ofOffset source b) := by
  have split : source.take b = source.take a ++ (source.drop a).take (b - a) := by
    rw [← List.take_add, Nat.add_sub_cancel' order]
  rw [ofOffset, ofOffset, split]
  exact notAfter_of_append _ _

end Point

/-! ## Trees that lie on a source -/

/-- That a tree lies on a source: every range is inside the one above, ranges beside each other come
    in order and do not overlap, and every node knows the place at which it begins. -/
inductive Node.LiesOn (source : List UInt8) : Node → Prop where
  | intro {n : Node} (range : n.start ≤ n.stop) (placed : n.point = Point.ofOffset source n.start)
      (inside : ∀ m ∈ n.children, n.start ≤ m.start ∧ m.stop ≤ n.stop)
      (apart : n.children.Pairwise fun a b => a.stop ≤ b.start)
      (below : ∀ m ∈ n.children, m.LiesOn source) : n.LiesOn source

namespace Node.LiesOn

variable {source : List UInt8} {n : Node}

theorem range (lies : n.LiesOn source) : n.start ≤ n.stop := by
  cases lies
  assumption

theorem placed (lies : n.LiesOn source) : n.point = Point.ofOffset source n.start := by
  cases lies
  assumption

theorem iff : n.LiesOn source ↔ n.start ≤ n.stop ∧ n.point = Point.ofOffset source n.start ∧
    (∀ m ∈ n.children, n.start ≤ m.start ∧ m.stop ≤ n.stop) ∧
    (n.children.Pairwise fun a b => a.stop ≤ b.start) ∧ ∀ m ∈ n.children, m.LiesOn source := by
  constructor
  · rintro ⟨range, placed, inside, apart, below⟩
    exact ⟨range, placed, inside, apart, below⟩
  · rintro ⟨range, placed, inside, apart, below⟩
    exact .intro range placed inside apart below

mutual

instance decidable (source : List UInt8) : (n : Node) → Decidable (n.LiesOn source)
  | ⟨_, _, _, _, _, _, children⟩ =>
    have := decidableAll source children
    decidable_of_iff _ iff.symm

def decidableAll (source : List UInt8) :
    (ns : List Node) → Decidable (∀ n ∈ ns, n.LiesOn source)
  | [] => isTrue nofun
  | n :: rest =>
    have := decidable source n
    have := decidableAll source rest
    decidable_of_iff _ List.forall_mem_cons.symm

end

end Node.LiesOn

namespace Occurrence

variable {source : List UInt8} {o : Occurrence} {stack rest : List Occurrence}

/-- Trees that lie on a source one behind the other. -/
structure InOrder (source : List UInt8) (stack : List Occurrence) : Prop where
  lie : ∀ o ∈ stack, o.node.LiesOn source
  apart : stack.Pairwise fun a b => a.node.stop ≤ b.node.start

theorem mem_children {child : Occurrence} (inside : child ∈ o.children) :
    child.node ∈ o.node.children := by
  obtain ⟨m, listed, rfl⟩ := List.mem_map.mp inside
  exact listed

/-- Children that take the place of their parent are in order with each other and with the rest. -/
theorem InOrder.step (order : InOrder source (o :: rest)) :
    InOrder source (o.children ++ rest) := by
  obtain ⟨lie, apart⟩ := order
  rw [List.forall_mem_cons] at lie
  rw [List.pairwise_cons] at apart
  cases lie.1 with
  | intro range placed inside siblings below =>
      constructor
      · intro x found
        rcases List.mem_append.mp found with child | later
        · exact below _ (mem_children child)
        · exact lie.2 x later
      · rw [List.pairwise_append, children, List.pairwise_map]
        refine ⟨siblings, apart.2, ?_⟩
        intro child found x later
        have upTo := (inside _ (mem_children found)).2
        have behind := apart.1 x later
        omega

/-- Nothing on the stack begins before its top did. -/
theorem InOrder.start_le (order : InOrder source (o :: rest)) :
    ∀ x ∈ o.children ++ rest, o.node.start ≤ x.node.start := by
  obtain ⟨lie, apart⟩ := order
  have top := lie o List.mem_cons_self
  intro x found
  rcases List.mem_append.mp found with child | later
  · cases top with
    | intro range placed inside siblings below => exact (inside _ (mem_children child)).1
  · have behind := (List.pairwise_cons.mp apart).1 x later
    have range := top.range
    omega

theorem InOrder.le_of_mem_walk (order : InOrder source stack) {least : Nat}
    (bound : ∀ x ∈ stack, least ≤ x.node.start) : ∀ x ∈ walk stack, least ≤ x.node.start := by
  fun_induction walk stack with
  | case1 => simp
  | case2 o rest ih =>
      rw [List.forall_mem_cons]
      have first := bound o List.mem_cons_self
      refine ⟨first, ih order.step ?_⟩
      intro x found
      exact first.trans (order.start_le x found)

theorem InOrder.lie_walk (order : InOrder source stack) :
    ∀ x ∈ walk stack, x.node.LiesOn source := by
  fun_induction walk stack with
  | case1 => simp
  | case2 o rest ih =>
      rw [List.forall_mem_cons]
      exact ⟨order.lie o List.mem_cons_self, ih order.step⟩

/-- The walk passes nodes in the order in which they begin. -/
theorem InOrder.pairwise_walk (order : InOrder source stack) :
    (walk stack).Pairwise fun a b => a.node.start ≤ b.node.start := by
  fun_induction walk stack with
  | case1 => exact .nil
  | case2 o rest ih =>
      rw [List.pairwise_cons]
      exact ⟨order.step.le_of_mem_walk order.start_le, ih order.step⟩

theorem inOrder_occurrence {tree : Node} (lies : tree.LiesOn source) :
    InOrder source [tree.occurrence] where
  lie := by simpa [Node.occurrence] using lies
  apart := by simp

end Occurrence

/-! ## Calls in order -/

namespace NamedCall

variable {source : List UInt8} {tree : Node}

theorem call_of_ofOccurrence? {o : Occurrence} {c : NamedCall}
    (taken : ofOccurrence? source o = some c) : c.call = o.node := by
  unfold ofOccurrence? at taken
  split at taken
  · simp only [Option.bind_eq_bind, Option.bind_eq_some_iff] at taken
    obtain ⟨_, _, _, _, _, _, same⟩ := taken
    cases same
    rfl
  · cases taken

/-- Calls are found in the order of their places. -/
theorem all_inOrder (lies : tree.LiesOn source) :
    (all source tree).Pairwise fun a b => a.call.point.NotAfter b.call.point := by
  have order := Occurrence.inOrder_occurrence lies
  rw [all, List.pairwise_filterMap]
  refine (List.Pairwise.and_mem.mp order.pairwise_walk).imp ?_
  rintro a b ⟨passed, later, starts⟩ c first d second
  rw [call_of_ofOccurrence? first, call_of_ofOccurrence? second,
    (order.lie_walk a passed).placed, (order.lie_walk b later).placed]
  exact Point.ofOffset_mono source starts

end NamedCall

theorem extract_calls_inOrder {source : List UInt8} {tree : Node} (lies : tree.LiesOn source)
    (apis : List String) (file : String) :
    (extract apis file source tree).calls.Pairwise fun a b =>
      a.line < b.line ∨ (a.line = b.line ∧ a.col ≤ b.col) := by
  rw [extract, List.pairwise_map]
  refine ((NamedCall.all_inOrder lies).filter _).imp ?_
  intro a b order
  simp only [NamedCall.apiCall]
  unfold Point.NotAfter at order
  omega

/-! ## Outer calls first -/

/-- Of two items of a sorted list, the one that does not come behind the other comes before it. -/
theorem pair_sublist_of_pairwise {α : Type} {r : α → α → Prop} {xs : List α}
    (sorted : xs.Pairwise r) {a b : α} (listed : a ∈ xs) (listed' : b ∈ xs) (different : a ≠ b)
    (order : ¬ r b a) : [a, b].Sublist xs := by
  obtain ⟨before, after, rfl⟩ := List.append_of_mem listed
  rw [List.pairwise_append] at sorted
  rcases List.mem_append.mp listed' with early | late
  · exact absurd (sorted.2.2 b early a List.mem_cons_self) order
  · rcases List.mem_cons.mp late with same | late
    · exact absurd same.symm different
    · exact ((List.singleton_sublist.mpr late).cons_cons a).trans (List.sublist_append_right _ _)

theorem lt_of_properPrefix {p q : Position} (above : p <+: q) (different : p ≠ q) : p < q := by
  obtain ⟨rest, rfl⟩ := above
  cases rest with
  | nil => exact absurd (List.append_nil p).symm different
  | cons i rest => exact Position.lt_below p i rest

/-- A call is found before the calls inside of it. -/
theorem extract_outer_first {apis : List String} {source : List UInt8} {tree : Node}
    {p q : Position} {outer inner : NamedCall} (around : outer.At source tree p) (within : inner.At source tree q)
    (above : p <+: q) (different : p ≠ q) (wanted : outer.callee ∈ apis)
    (wanted' : inner.callee ∈ apis) (file : String) :
    [outer.apiCall source file, inner.apiCall source file].Sublist
      (extract apis file source tree).calls := by
  have before := lt_of_properPrefix above different
  have pair : [(p, outer), (q, inner)].Sublist (apiSites apis source tree) := by
    refine pair_sublist_of_pairwise (apiSites_sorted apis source tree)
      ((mem_apiSites ..).mpr ⟨around, wanted⟩) ((mem_apiSites ..).mpr ⟨within, wanted'⟩) ?_ ?_
    · intro same
      exact different (congrArg Prod.fst same)
    · intro behind
      exact List.lt_irrefl _ (List.lt_trans before behind)
  rw [extract_calls]
  exact pair.map fun site => site.2.apiCall source file

/-! ## Files in order -/

theorem ApiCall.placeOrder_iff (a b : ApiCall) :
    placeOrder a b ↔ a.file < b.file ∨
      (a.file = b.file ∧ (a.line < b.line ∨ (a.line = b.line ∧ a.col ≤ b.col))) := by
  simp [placeOrder]

section
variable {parse : Parser} {apis : List String} {fs : FileSystem} {paths : List String}

/-- That the trees of all files that can be read lie on their sources. -/
def AllLie (parse : Parser) (fs : FileSystem) (paths : List String) : Prop :=
  ∀ path ∈ paths, ∀ text, fs.readText path = .ok text →
    (parse text).root.LiesOn (Utf8.encode text)

theorem contribution_calls_inOrder {path : String} (listed : path ∈ paths)
    (lie : AllLie parse fs paths) :
    (contribution parse apis fs path).calls.Pairwise (ApiCall.placeOrder · ·) := by
  have places : (contribution parse apis fs path).calls.Pairwise fun a b =>
      a.line < b.line ∨ (a.line = b.line ∧ a.col ≤ b.col) := by
    unfold contribution
    cases read : fs.readText path with
    | error refusal => exact .nil
    | ok text => exact extract_calls_inOrder (lie path listed text read) apis path
  refine (List.Pairwise.and_mem.mp places).imp ?_
  rintro a b ⟨first, second, order⟩
  rw [ApiCall.placeOrder_iff, file_of_contributed_call first, file_of_contributed_call second]
  exact .inr ⟨rfl, order⟩

/-- The calls of files in order are in order. -/
theorem contributed_calls_inOrder (increasing : paths.Pairwise (· < ·))
    (lie : AllLie parse fs paths) :
    (paths.flatMap fun path => (contribution parse apis fs path).calls).Pairwise
      (ApiCall.placeOrder · ·) := by
  rw [List.pairwise_flatMap]
  refine ⟨fun path listed => contribution_calls_inOrder listed lie, increasing.imp ?_⟩
  intro path later order a first b second
  rw [ApiCall.placeOrder_iff, file_of_contributed_call first, file_of_contributed_call second]
  exact .inl order

end

/-- The calls of the API in files, in the order in which they are found. -/
def foundCalls (parse : Parser) (apis : List String) (fs : FileSystem) (paths : List String) :
    List ApiCall :=
  (Logged.mapState (indexFile parse apis fs) CallerGraph.empty paths).value.1.flatten

theorem foundCalls_eq (parse : Parser) (apis : List String) (fs : FileSystem)
    (paths : List String) :
    foundCalls parse apis fs paths =
      paths.flatMap fun path => (contribution parse apis fs path).calls := by
  rw [foundCalls, mapState_indexFile_value, List.flatMap_def]

/-- Calls come out in the order of the source. The calls of a tree that lies on its source are in
    the order of their places; the calls of files that are searched for come sorted, so that sorting
    them changes nothing; and a call comes before the calls inside of it, also where they begin at
    one place. -/
theorem indexFiles_already_sorted (parse : Parser) (apis : List String) (fs : FileSystem) :
    (∀ (file : String) (source : List UInt8) (tree : Node), tree.LiesOn source →
      (extract apis file source tree).calls.Pairwise fun a b =>
        a.line < b.line ∨ (a.line = b.line ∧ a.col ≤ b.col)) ∧
    (∀ root extensions, (fs.findFiles root extensions).Pairwise (· < ·)) ∧
    ∀ paths : List String, paths.Pairwise (· < ·) → AllLie parse fs paths →
      (foundCalls parse apis fs paths).Pairwise (fun a b => ApiCall.placeOrder a b) ∧
      ApiCall.sorted (foundCalls parse apis fs paths) = foundCalls parse apis fs paths ∧
      (indexFiles parse apis fs paths).value.1 = foundCalls parse apis fs paths ∧
      ∀ path ∈ paths, ∀ text, fs.readText path = .ok text → ∀ p q outer inner,
        NamedCall.At (Utf8.encode text) (parse text).root p outer →
        NamedCall.At (Utf8.encode text) (parse text).root q inner → p <+: q → p ≠ q →
        outer.callee ∈ apis → inner.callee ∈ apis →
          [outer.apiCall (Utf8.encode text) path, inner.apiCall (Utf8.encode text) path].Sublist
            (foundCalls parse apis fs paths) := by
  refine ⟨fun file source tree lies => extract_calls_inOrder lies apis file,
    fs.findFiles_increasing, ?_⟩
  intro paths increasing lie
  have order : (foundCalls parse apis fs paths).Pairwise (fun a b => ApiCall.placeOrder a b) := by
    rw [foundCalls_eq]
    exact contributed_calls_inOrder increasing lie
  have sorted : ApiCall.sorted (foundCalls parse apis fs paths) = foundCalls parse apis fs paths :=
    List.mergeSort_of_pairwise order
  refine ⟨order, sorted, ?_, ?_⟩
  · rw [indexFiles_value, ← foundCalls_eq, sorted]
  · intro path listed text read p q outer inner around within above different wanted wanted'
    have pair := extract_outer_first around within above different wanted wanted' path
    have own : (contribution parse apis fs path).calls =
        (extract apis path (Utf8.encode text) (parse text).root).calls := by
      rw [contribution, read]
    rw [← own] at pair
    rw [foundCalls_eq, List.flatMap_def]
    exact pair.trans (List.sublist_flatten_of_mem (List.mem_map_of_mem listed))

private def chainedText : String := "void M(){A().B();}"

/-- The tree of a call on the result of another. Both begin at one place. -/
private def chainedCalls : Node :=
  .methodAround 18
    [.onLine "invocation_expression" true none 9 16
      [.onLine "member_access_expression" true (some "function") 9 14
          [.callOnLine (some "expression") 9 12 [],
            .onLine "identifier" true (some "name") 13 14 []],
        .onLine "argument_list" true (some "arguments") 14 16 []]]

private def chainedParser : Parser := fun _ => ⟨chainedCalls, false⟩

private def chainedFiles : FileSystem :=
  ⟨[(["a.cs"], .file (Utf8.encode chainedText))], []⟩

private theorem chainedFiles_readText :
    chainedFiles.readText (joinPath "/" "a.cs") = .ok chainedText :=
  FileSystem.readText_eq_ok_iff.2
    ⟨_, FileSystem.read_joinPath chainedFiles.scan_root (by decide) rfl (by decide), rfl⟩

/-- The outer one of two calls that begin at one place comes first. -/
theorem indexFiles_already_sorted_chained :
    ["/a.cs"].Pairwise (· < ·) ∧ AllLie chainedParser chainedFiles ["/a.cs"] ∧
    ∃ outer inner : ApiCall, outer.api = "B" ∧ inner.api = "A" ∧ outer.col = 9 ∧ inner.col = 9 ∧
      [outer, inner].Sublist
        (indexFiles chainedParser ["A", "B"] chainedFiles ["/a.cs"]).value.1 := by
  have lie : AllLie chainedParser chainedFiles ["/a.cs"] := by
    intro path listed text read
    rw [List.mem_singleton] at listed
    subst listed
    cases chainedFiles_readText.symm.trans read
    have lies : chainedCalls.LiesOn (Utf8.encode chainedText) := by decide
    exact lies
  have increasing : ["/a.cs"].Pairwise (· < ·) := List.pairwise_singleton ..
  obtain ⟨_, _, unchanged, nested⟩ :=
    (indexFiles_already_sorted chainedParser ["A", "B"] chainedFiles).2.2 _ increasing lie
  have outside : (NamedCall.at? (Utf8.encode chainedText) chainedCalls [1, 0]).map
      (fun c => (c.callee, c.call.point.col)) = some ("B", 9) := rfl
  have inside : (NamedCall.at? (Utf8.encode chainedText) chainedCalls [1, 0, 0, 0]).map
      (fun c => (c.callee, c.call.point.col)) = some ("A", 9) := rfl
  obtain ⟨outer, around, outerParts⟩ := Option.map_eq_some_iff.mp outside
  obtain ⟨inner, within, innerParts⟩ := Option.map_eq_some_iff.mp inside
  rw [Prod.mk.injEq] at outerParts innerParts
  refine ⟨increasing, lie, outer.apiCall (Utf8.encode chainedText) "/a.cs",
    inner.apiCall (Utf8.encode chainedText) "/a.cs", outerParts.1, innerParts.1,
    congrArg Int.ofNat outerParts.2, congrArg Int.ofNat innerParts.2, ?_⟩
  rw [unchanged]
  exact nested "/a.cs" List.mem_cons_self chainedText chainedFiles_readText [1, 0] [1, 0, 0, 0]
    outer inner ((NamedCall.at?_eq_some_iff ..).mp around)
    ((NamedCall.at?_eq_some_iff ..).mp within) (by decide) (by decide) (by simp [outerParts.1])
    (by simp [innerParts.1])

end CallOrigin
