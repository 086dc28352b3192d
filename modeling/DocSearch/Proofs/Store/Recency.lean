import DocSearch.Proofs.Store.Session

/- The order of the indexes that a session keeps. An index that is given comes to the front, the others
stay in their order, and only a new one in a full table pushes the last one out, which is the one whose
last use is longest ago. -/
namespace DocSearch
open FileTree

namespace Store
variable {store after : Store} {tree : FileTree} {home path : String} {loaded : Loaded}
  {answer : Except LoadError Loaded}

inductive Fetched (store : Store) (tree : FileTree) (path : String) :
    Except LoadError Loaded → Store → Prop
  | kept {loaded : Loaded} (found : store.cached.lookup (plain path) = some loaded)
    (fresh : loaded.isFresh tree = true) :
    Fetched store tree path (.ok loaded)
      { store with cached := store.cached.promote (plain path) }
  | read {loaded : Loaded}
    (stale : ∀ old, store.cached.lookup (plain path) = some old → old.isFresh tree = false)
    (read : Loaded.read store.nextSerial tree path = .ok loaded) :
    Fetched store tree path (.ok loaded)
      { store with
        cached := store.cached.put store.capacity (plain path) loaded
        nextSerial := store.nextSerial + 1 }
  | unread {e : LoadError}
    (stale : ∀ old, store.cached.lookup (plain path) = some old → old.isFresh tree = false)
    (unread : Loaded.read store.nextSerial tree path = .error e) :
    Fetched store tree path (.error e) { store with cached := store.cached.forget (plain path) }

theorem fetch_fetched (store : Store) (tree : FileTree) (path : String) :
    store.Fetched tree path (store.fetch tree path).1 (store.fetch tree path).2 := by
  by_cases fresh : ∃ loaded, store.cached.lookup (plain path) = some loaded ∧
      loaded.isFresh tree = true
  · obtain ⟨loaded, found, fresh⟩ := fresh
    rw [fetch, found]
    dsimp only
    rw [if_pos fresh]
    exact .kept found fresh
  · have stale : ∀ old, store.cached.lookup (plain path) = some old → old.isFresh tree = false :=
      fun old found => Bool.eq_false_iff.2 fun isFresh => fresh ⟨old, found, isFresh⟩
    rw [fetch_of_stale stale, reload]
    cases done : Loaded.read store.nextSerial tree path with
    | error e => exact .unread stale done
    | ok loaded => exact .read stale done

/-- What a question to a store can come to: nothing is looked up, or the index at a resolved path is
asked for, and it may become active. -/
inductive Answered (store : Store) (tree : FileTree) : Except LoadError Loaded → Store → Prop
  | refused (e : LoadError) : Answered store tree (.error e) store
  | fetched {path : String} {answer : Except LoadError Loaded} {after : Store}
    (fetched : store.Fetched tree path answer after) : Answered store tree answer after
  | activated {path : String} {loaded : Loaded} {after : Store}
    (fetched : store.Fetched tree path (.ok loaded) after) :
    Answered store tree (.ok loaded) (after.setActive loaded.path)

theorem load_cases (store : Store) (home : String) (tree : FileTree) (path : String) :
    (∃ e, resolveIndex home tree path = .error e ∧
      store.load home tree path = (.error e, store)) ∨
    ∃ resolved, resolveIndex home tree path = .ok resolved ∧
      store.Fetched tree resolved (store.load home tree path).1 (store.load home tree path).2 := by
  unfold load
  cases resolveIndex home tree path with
  | error e => exact Or.inl ⟨e, rfl, rfl⟩
  | ok resolved => exact Or.inr ⟨resolved, rfl, fetch_fetched store tree resolved⟩

theorem answered_load (store : Store) (home : String) (tree : FileTree) (path : String) :
    store.Answered tree (store.load home tree path).1 (store.load home tree path).2 := by
  rcases load_cases store home tree path with ⟨e, _, refused⟩ | ⟨resolved, _, fetched⟩
  · rw [refused]
    exact .refused e
  · exact .fetched fetched

theorem answered_activate (store : Store) (home : String) (tree : FileTree) (path : String) :
    store.Answered tree (store.activate home tree path).1 (store.activate home tree path).2 := by
  have answered := answered_load store home tree path
  unfold activate
  rcases done : store.load home tree path with ⟨e | loaded, after⟩
  · rw [done] at answered
    exact answered
  · rcases load_cases store home tree path with ⟨e, _, refused⟩ | ⟨resolved, _, fetched⟩
    · cases done.symm.trans refused
    · rw [done] at fetched
      exact .activated fetched

theorem answered_get (store : Store) (home : String) (tree : FileTree) (path : Option String) :
    store.Answered tree (store.get home tree path).1 (store.get home tree path).2 := by
  unfold get
  cases path.filter (!Text.isAllBlank ·) with
  | some path => exact answered_load store home tree path
  | none =>
    cases store.active with
    | none => exact .refused .noneActive
    | some path => exact .fetched (fetch_fetched store tree path)

/-- A table whose entries stand under the paths that their indexes were read from. -/
def Keyed (entries : Recent Loaded) : Prop := ∀ entry ∈ entries, entry.1 = plain entry.2.path

theorem Fetched.capacity (fetched : store.Fetched tree path answer after) :
    after.capacity = store.capacity := by
  cases fetched <;> rfl

theorem Answered.capacity (answered : store.Answered tree answer after) :
    after.capacity = store.capacity := by
  cases answered with
  | refused => rfl
  | fetched fetched | activated fetched => exact fetched.capacity

section
variable (tidy : store.cached.Tidy store.capacity) (room : 0 < store.capacity)
  (keyed : Keyed store.cached)
include tidy room keyed

theorem Fetched.given (fetched : store.Fetched tree path (.ok loaded) after) :
    after.cached = (plain loaded.path, loaded) ::
      store.cached.behind store.capacity (plain loaded.path) := by
  cases fetched with
  | kept found =>
    have key : plain path = plain loaded.path := keyed _ (mem_of_lookup found)
    rw [← key]
    exact Recent.promote_eq store.capacity found
  | read _ read =>
    obtain ⟨_, _, rfl, _⟩ := Loaded.read_eq_ok.1 read
    exact tidy.put_eq room _ loaded

theorem Answered.given (answered : store.Answered tree (.ok loaded) after) :
    after.cached = (plain loaded.path, loaded) ::
      store.cached.behind store.capacity (plain loaded.path) := by
  cases answered with
  | fetched fetched => exact fetched.given tidy room keyed
  | activated fetched =>
    have given := fetched.given tidy room keyed
    exact given

end

theorem Answered.failed {e : LoadError} (answered : store.Answered tree (.error e) after) :
    after.cached = store.cached ∨ ∃ key, after.cached = store.cached.forget key := by
  cases answered with
  | refused => exact Or.inl rfl
  | fetched fetched =>
    cases fetched with
    | unread => exact Or.inr ⟨_, rfl⟩

end Store

namespace Session
variable {s : Session} {events : List Event} {event : Event} {capacity : Nat}

def usedPath : Option (Except LoadError Loaded) → List String
  | some (.ok loaded) => [plain loaded.path]
  | some (.error _) | none => []

def uses (s : Session) : List Event → List String
  | [] => []
  | event :: events => usedPath (s.step event).1 ++ (s.step event).2.uses events

/-- The path was used when the other one was not used any more. -/
def UsedAfter (uses : List String) (path other : String) : Prop :=
  ∃ before after, uses = before ++ path :: after ∧ other ∉ after

/-- The indexes that are kept, and the order they stand in. -/
structure Ordered (capacity : Nat) (uses : List String) (s : Session) : Prop where
  bound : s.store.capacity = capacity
  tidy : s.store.cached.Tidy capacity
  keyed : Store.Keyed s.store.cached
  recent : (s.store.cached.map Prod.fst).Pairwise (UsedAfter uses)

theorem UsedAfter.append {uses more : List String} {path other : String}
    (usedAfter : UsedAfter uses path other) (unused : other ∉ more) :
    UsedAfter (uses ++ more) path other := by
  obtain ⟨before, after, rfl, new⟩ := usedAfter
  exact ⟨before, after ++ more, by simp, by simp [new, unused]⟩

theorem Ordered.sublist {uses : List String} (ordered : s.Ordered capacity uses)
    {part : Recent Loaded} (sub : part.Sublist s.store.cached) :
    ({ s with store := { s.store with cached := part } } : Session).Ordered capacity uses :=
  ⟨ordered.bound, ordered.tidy.sublist sub, fun entry member => ordered.keyed entry (sub.subset member),
    ordered.recent.sublist (sub.map Prod.fst)⟩

theorem exists_answered {asked : Option String} (asks : event.asks = some asked) (s : Session) :
    ∃ answer after, s.step event = (some answer, { s with store := after }) ∧
      s.store.Answered s.files answer after := by
  cases event with
  | load path => exact ⟨_, _, rfl, s.store.answered_load s.home s.files path⟩
  | activate path => exact ⟨_, _, rfl, s.store.answered_activate s.home s.files path⟩
  | get path => exact ⟨_, _, rfl, s.store.answered_get s.home s.files path⟩
  | change | setActive | clear => cases asks

theorem Ordered.ask {uses : List String} (ordered : s.Ordered capacity uses) (room : 0 < capacity)
    {asked : Option String} (asks : event.asks = some asked) :
    (s.step event).2.Ordered capacity (uses ++ usedPath (s.step event).1) := by
  obtain ⟨answer, after, step, answered⟩ := exists_answered asks s
  obtain ⟨rfl, tidy, keyed, recent⟩ := ordered
  rw [step]
  cases answer with
  | error e =>
    rw [usedPath, List.append_nil]
    have sub : after.cached.Sublist s.store.cached := by
      rcases answered.failed with same | ⟨key, less⟩
      · rw [same]
      · rw [less]
        exact List.filter_sublist
    exact ⟨answered.capacity, tidy.sublist sub, fun entry member => keyed entry (sub.subset member),
      recent.sublist (sub.map Prod.fst)⟩
  | ok loaded =>
    have given := answered.given tidy room keyed
    have sub := Recent.behind_sublist s.store.capacity s.store.cached (plain loaded.path)
    have new := Recent.key_not_mem_behind s.store.capacity s.store.cached (plain loaded.path)
    refine ⟨answered.capacity, ?_, ?_, ?_⟩
    · rw [given]
      exact tidy.front room _ loaded
    · rw [given]
      exact List.forall_mem_cons.2 ⟨rfl, fun entry member => keyed entry (sub.subset member)⟩
    · rw [given, List.map_cons, List.pairwise_cons]
      refine ⟨fun other _ => ⟨uses, [], rfl, by simp⟩, ?_⟩
      -- The paths behind the one that is used now are others, so their order of use stays.
      refine (recent.sublist (sub.map Prod.fst)).imp_of_mem fun _ member usedAfter => ?_
      refine usedAfter.append ?_
      rw [usedPath, List.mem_singleton]
      rintro rfl
      exact new member

theorem Ordered.step {uses : List String} (ordered : s.Ordered capacity uses) (room : 0 < capacity)
    (event : Event) : (s.step event).2.Ordered capacity (uses ++ usedPath (s.step event).1) := by
  cases event with
  | change | setActive =>
    rw [Session.step, usedPath, List.append_nil]
    exact ⟨ordered.bound, ordered.tidy, ordered.keyed, ordered.recent⟩
  | clear =>
    rw [Session.step, usedPath, List.append_nil]
    exact ordered.sublist (List.nil_sublist _)
  | load | activate | get => exact ordered.ask room rfl

theorem uses_append (s : Session) (before after : List Event) :
    s.uses (before ++ after) = s.uses before ++ (s.run before).uses after := by
  induction before generalizing s with
  | nil => rfl
  | cons event before ih => rw [List.cons_append, uses, ih, uses, List.append_assoc]; rfl

theorem ordered_run (room : 0 < capacity) (home : String) (files : FileTree) (events : List Event) :
    ((start home files capacity).run events).Ordered capacity
      ((start home files capacity).uses events) := by
  induction events using List.reverseRecOn with
  | nil => exact ⟨rfl, ⟨List.nodup_nil, Nat.zero_le _⟩, fun _ member => (by cases member), .nil⟩
  | append_singleton events event ih =>
    have next : (start home files capacity).run (events ++ [event]) =
        (((start home files capacity).run events).step event).2 := List.foldl_append
    rw [next, uses_append, uses, uses, List.append_nil]
    exact ih.step room event

/-- A session never keeps more indexes than its capacity. Each stands under the path it was read from, and
before all whose last use is longer ago. An index that is given stands in front afterwards, and the other
entries stay in their order, but that the last one leaves if the table was full and the index is new in it.
A failure forgets at most one entry, and an event without an answer none, unless it clears the table. -/
theorem least_recently_used_leaves (room : 0 < capacity) (home : String) (files : FileTree)
    (events : List Event) :
    let s := (start home files capacity).run events
    let kept := s.store.cached
    (kept.Tidy capacity ∧ Store.Keyed kept ∧
      (kept.map Prod.fst).Pairwise (UsedAfter ((start home files capacity).uses events))) ∧
      ∀ event,
        let after := (s.step event).2.store.cached
        (∀ loaded, (s.step event).1 = some (.ok loaded) →
          after = (plain loaded.path, loaded) :: kept.behind capacity (plain loaded.path)) ∧
        (∀ e, (s.step event).1 = some (.error e) →
          after = kept ∨ ∃ path, after = kept.forget path) ∧
        ((s.step event).1 = none → event ≠ .clear → after = kept) := by
  intro s kept
  obtain ⟨bound, tidy, keyed, recent⟩ := ordered_run room home files events
  refine ⟨⟨tidy, keyed, recent⟩, fun event => ?_⟩
  cases asks : event.asks with
  | some asked =>
    obtain ⟨answer, after, step, answered⟩ := exists_answered asks s
    rw [step]
    refine ⟨fun loaded given => ?_, fun e failed => ?_, fun silent _ => by cases silent⟩
    · cases Option.some.inj given
      have given := answered.given (bound.symm ▸ tidy) (bound.symm ▸ room) keyed
      rw [show s.store.capacity = capacity from bound] at given
      exact given
    · cases Option.some.inj failed
      exact answered.failed
  | none =>
    have silent : (s.step event).1 = none := by
      cases event with
      | change | setActive | clear => rfl
      | load | activate | get => cases asks
    rw [silent]
    refine ⟨fun _ given => (by cases given), fun _ failed => (by cases failed), fun _ keeps => ?_⟩
    cases event with
    | change | setActive => rfl
    | clear => exact absurd rfl keeps
    | load | activate | get => cases asks

theorem resolve_bare_name (data : FileData) : (FileTree.alone data).resolve "x.js" = .ok ["x.js"] := by
  have noNul : "x.js".contains '\x00' = false := by simp
  rw [FileTree.resolve, if_neg (by simp [noNul])]
  rfl

def bareEvents : List Event := [.load "/x.js", .setActive "x.js"]

theorem run_bareEvents {loaded : Loaded} (read : Loaded.read 0 onlyIndex "/x.js" = .ok loaded) :
    (start "/" onlyIndex 1).run bareEvents =
      ⟨"/", onlyIndex, ⟨1, [("/x.js", loaded)], some "x.js", 1⟩⟩ := by
  have step : (start "/" onlyIndex 1).run bareEvents =
      ⟨"/", onlyIndex, ((Store.empty 1).load "/" onlyIndex "/x.js").2.setActive "x.js"⟩ := rfl
  rw [step, load_onlyIndex read]
  rfl

theorem least_recently_used_leaves_respelled :
    let s := (start "/" onlyIndex 1).run bareEvents
    0 < 1 ∧ ∃ first second, s.store.cached = [("/x.js", first)] ∧
      (s.step (.get none)).1 = some (.ok second) ∧
        (s.step (.get none)).2.store.cached = [("x.js", second)] := by
  intro s
  obtain ⟨first, readFirst⟩ := exists_read_onlyIndex 0
  obtain ⟨genuine, _, _, found⟩ := Loaded.read_eq_ok.1 readFirst
  have state : s = ⟨"/", onlyIndex, ⟨1, [("/x.js", first)], some "x.js", 1⟩⟩ :=
    run_bareEvents readFirst
  have there : onlyIndex.file "x.js" = .ok indexFile :=
    FileTree.file_eq_ok.2 (FileTree.node_eq_ok.2 ⟨["x.js"], resolve_bare_name indexFile, rfl⟩)
  have file : indexFile = first.file := by
    rw [onlyIndex, FileTree.file_alone] at found
    exact Except.ok.inj found
  obtain ⟨second, readSecond, path, _⟩ := genuine.read (congrArg FileData.bytes file) there 1
  have bare : plain "x.js" = "x.js" := by decide +kernel
  have answer : (s.step (.get none)).1 = some (.ok second) := by
    have new : List.lookup (plain "x.js") [("/x.js", first)] = none := by
      rw [bare]
      simp
    rw [state]
    simp [step, told, Store.get, Store.fetch, new, Store.reload, readSecond]
  have after := ((least_recently_used_leaves (by decide) "/" onlyIndex bareEvents).2 (.get none)).1
    second answer
  refine ⟨by decide, first, second, by rw [state], answer, ?_⟩
  rw [path, bare, show ((start "/" onlyIndex 1).run bareEvents).store.cached = [("/x.js", first)] from
    congrArg (·.store.cached) state] at after
  rw [after]
  simp [Recent.behind, Recent.contains]

end Session
end DocSearch
