import DocSearch.Proofs.Store.Questions
import Mathlib.Data.List.Induction

/- Keeping indexes cannot be noticed. Whatever a session does to its files and its store, an answer of
the store is what reading the file would give at that moment; only of a path that was made active in
another than its plainest spelling may it be the file as another spelling names it. -/
namespace DocSearch

/-- Files that anything may happen to, and a store that is asked for indexes in them. -/
structure Session where
  home : String
  files : FileTree
  store : Store

namespace Session

inductive Event
  | change (files : FileTree)
  | load (path : String)
  | activate (path : String)
  | get (path : Option String)
  | setActive (path : String)
  | clear

def start (home : String) (files : FileTree) (capacity : Nat) : Session :=
  ⟨home, files, .empty capacity⟩

def told (s : Session) (answer : Except LoadError Loaded × Store) :
    Option (Except LoadError Loaded) × Session :=
  (some answer.1, { s with store := answer.2 })

def step (s : Session) : Event → Option (Except LoadError Loaded) × Session
  | .change files => (none, { s with files })
  | .load path => s.told (s.store.load s.home s.files path)
  | .activate path => s.told (s.store.activate s.home s.files path)
  | .get path => s.told (s.store.get s.home s.files path)
  | .setActive path => (none, { s with store := s.store.setActive path })
  | .clear => (none, { s with store := s.store.clear })

def run (s : Session) (events : List Event) : Session :=
  events.foldl (fun s event => (s.step event).2) s

/-- The path of the index that an event asks for; the inner `none` stands for the active one. -/
def Event.asks : Event → Option (Option String)
  | .load path | .activate path => some (some path)
  | .get path => some (path.filter (!Text.isAllBlank ·))
  | .change _ | .setActive _ | .clear => none

/-- Some event of the session was answered by this index. -/
def Gave (s : Session) (events : List Event) (loaded : Loaded) : Prop :=
  ∃ before event after, events = before ++ event :: after ∧
    ((s.run before).step event).1 = some (.ok loaded)

def reading (s : Session) (path : String) : Except LoadError Loaded :=
  Loaded.read s.store.nextSerial s.files path

/-- What a session that keeps nothing would answer now: resolving the path and reading the file. The
active path is not resolved again. -/
def afresh (s : Session) : (asked : Option String) → Except LoadError Loaded
  | some path =>
    match resolveIndex s.home s.files path with
    | .error e => .error e
    | .ok path => s.reading path
  | none =>
    match s.store.active with
    | none => .error .noneActive
    | some path => s.reading path

/-- An event makes the path active as it is spelled. -/
def Named (events : List Event) (path : String) : Prop := .setActive path ∈ events

variable {events : List Event} {event : Event}

/-- What stays true of a session: what is kept was given before, and the active path is spelled
plainly or as it was named. -/
structure Sound (spellings : String → Prop) (gave : Loaded → Prop) (s : Session) : Prop where
  names : s.files.StartsAtNames
  entered : ∀ entry ∈ s.store.cached, Store.Entered spellings entry
  given : ∀ entry ∈ s.store.cached, gave entry.2
  active : ∀ path, s.store.active = some path → FileTree.plain path = path ∨ spellings path

section
variable {spellings : String → Prop} {gave : Loaded → Prop} {s : Session}
  (sound : s.Sound spellings gave)
include sound

theorem Sound.asked {asked : Option String} (asks : event.asks = some asked) :
    ∃ answer after, s.step event = (some answer, { s with store := after }) ∧
      s.store.Asked spellings answer after := by
  cases event with
  | load path => exact ⟨_, _, rfl, Store.asked_load sound.entered sound.names path⟩
  | activate path => exact ⟨_, _, rfl, Store.asked_activate sound.entered sound.names path⟩
  | get path => exact ⟨_, _, rfl, Store.asked_get sound.entered sound.names sound.active path⟩
  | change | setActive | clear => cases asks

theorem Sound.ask {asked : Option String} (asks : event.asks = some asked)
    (gives : ∀ loaded, (s.step event).1 = some (.ok loaded) → gave loaded) :
    (s.step event).2.Sound spellings gave := by
  obtain ⟨answer, after, step, kept⟩ := sound.asked asks
  rw [step] at gives ⊢
  refine ⟨sound.names, fun entry member => ?_, fun entry member => ?_, fun path same => ?_⟩
  · rcases kept.entries entry member with old | ⟨new, _⟩
    · exact sound.entered entry old
    · exact new
  · rcases kept.entries entry member with old | ⟨_, done⟩
    · exact sound.given entry old
    · exact gives entry.2 (congrArg some done)
  · rcases kept.active path same with old | ⟨loaded, done, rfl⟩
    · exact sound.active path old
    · exact kept.spelling loaded done

theorem Sound.step (names : ∀ tree, event = .change tree → tree.StartsAtNames)
    (named : ∀ path, event = .setActive path → spellings path)
    (gives : ∀ loaded, (s.step event).1 = some (.ok loaded) → gave loaded) :
    (s.step event).2.Sound spellings gave := by
  cases event with
  | change tree => exact ⟨names tree rfl, sound.entered, sound.given, sound.active⟩
  | setActive path =>
    refine ⟨sound.names, sound.entered, sound.given, fun other same => ?_⟩
    cases same
    exact Or.inr (named path rfl)
  | clear =>
    exact ⟨sound.names, fun _ member => (by cases member), fun _ member => (by cases member),
      sound.active⟩
  | load | activate | get => exact sound.ask rfl gives

end

theorem sound_run {home : String} {files : FileTree} {capacity : Nat} (names : files.StartsAtNames)
    (changes : ∀ tree, .change tree ∈ events → tree.StartsAtNames) :
    ((start home files capacity).run events).Sound (Named events)
      ((start home files capacity).Gave events) := by
  suffices all : ∀ before after, events = before ++ after →
      ((start home files capacity).run before).Sound (Named events)
        ((start home files capacity).Gave events) from all events [] (List.append_nil events).symm
  intro before
  induction before using List.reverseRecOn with
  | nil =>
    intro after _
    exact ⟨names, fun _ member => (by cases member), fun _ member => (by cases member),
      fun _ same => (by cases same)⟩
  | append_singleton before event ih =>
    intro after split
    have split : events = before ++ event :: after := by rw [split, List.append_assoc]; rfl
    have member : event ∈ events := by rw [split]; simp
    have next : (start home files capacity).run (before ++ [event]) =
        (((start home files capacity).run before).step event).2 := List.foldl_append
    rw [next]
    refine (ih (event :: after) split).step ?_ ?_ fun loaded gives => ?_
    · rintro tree rfl
      exact changes tree member
    · rintro path rfl
      exact member
    · exact ⟨before, event, after, split, gives⟩

theorem activate_fst (store : Store) (home : String) (tree : FileTree) (path : String) :
    (store.activate home tree path).1 = (store.load home tree path).1 := by
  unfold Store.activate
  rcases store.load home tree path with ⟨_ | _, _⟩ <;> rfl

theorem load_agrees {s : Session} {spellings : String → Prop} {gave : Loaded → Prop}
    (sound : s.Sound spellings gave)
    (trusted : ∀ entry ∈ s.store.cached, entry.2.Trusted s.files) (path : String) :
    Agrees spellings (s.store.load s.home s.files path).1 (s.afresh (some path)) := by
  unfold Store.load afresh
  dsimp only
  cases found : resolveIndex s.home s.files path with
  | error e => exact .error e
  | ok resolved =>
    have plain := plain_resolveIndex sound.names found
    rcases Store.fetch_agrees sound.entered trusted (Or.inl plain) s.store.nextSerial with same | other
    · exact same
    · exact absurd plain other.1

/-- Every answer of a session is what it would be if nothing were kept, as long as no file that was
loaded has become another one of the same size and time. The only exception is an active path that
was not set in its plainest spelling and cannot be read as it is spelled: the answer then is what its
plainest spelling can be read as. -/
theorem answer_agrees_afresh {home : String} {files : FileTree} {capacity : Nat}
    {asked : Option String} (names : files.StartsAtNames)
    (changes : ∀ tree, .change tree ∈ events → tree.StartsAtNames)
    (asks : event.asks = some asked)
    (trusted : ∀ loaded, (start home files capacity).Gave events loaded →
      loaded.Trusted ((start home files capacity).run events).files) :
    let s := (start home files capacity).run events
    ∃ outcome, (s.step event).1 = some outcome ∧
      (Agrees (Named events) outcome (s.afresh asked) ∨
        ∃ path, asked = none ∧ s.store.active = some path ∧ Named events path ∧
          FileTree.plain path ≠ path ∧ (∃ e, s.reading path = .error e) ∧
            Agrees (Named events) outcome (s.reading (FileTree.plain path))) := by
  intro s
  have sound : s.Sound (Named events) ((start home files capacity).Gave events) :=
    sound_run names changes
  have trusted : ∀ entry ∈ s.store.cached, entry.2.Trusted s.files :=
    fun entry member => trusted entry.2 (sound.given entry member)
  have load (path : String) := load_agrees sound trusted path
  cases event with
  | load path =>
    cases asks
    exact ⟨_, rfl, Or.inl (load path)⟩
  | activate path =>
    cases asks
    exact ⟨_, rfl, Or.inl (by rw [activate_fst]; exact load path)⟩
  | get path =>
    cases Option.some.inj asks
    refine ⟨_, rfl, ?_⟩
    unfold Store.get
    cases path.filter (!Text.isAllBlank ·) with
    | some path => exact Or.inl (load path)
    | none =>
      unfold afresh
      cases current : s.store.active with
      | none => exact Or.inl (.error .noneActive)
      | some path =>
        have spelling := sound.active path current
        rcases Store.fetch_agrees sound.entered trusted spelling s.store.nextSerial with same | other
        · exact Or.inl same
        · obtain ⟨differs, unreadable, same⟩ := other
          have named := spelling.resolve_left differs
          exact Or.inr ⟨path, rfl, rfl, named, differs, unreadable, same⟩
  | change | setActive | clear => cases asks

def slashEvents : List Event := [.load "/x.js", .setActive "/x.js/"]

theorem resolveIndex_alone (data : FileData) :
    resolveIndex "/" (.alone data) "/x.js" = .ok "/x.js" := by
  have place : (FileTree.alone data).resolve "/x.js" = .ok ["x.js"] := FileTree.resolve_alone data
  have located : (FileTree.alone data).locate? "/x.js" = some "/x.js" :=
    FileTree.locate?_eq_some.2 ⟨_, FileTree.node_eq_ok.2 ⟨_, place, rfl⟩, rfl⟩
  have tilde : expandTilde "/" "/x.js" = "/x.js" := by rfl
  rw [resolveIndex, tilde, located]
  simp only [FileTree.canonical, place]
  rfl

theorem load_onlyIndex {loaded : Loaded} (read : Loaded.read 0 onlyIndex "/x.js" = .ok loaded) :
    (Store.empty 1).load "/" onlyIndex "/x.js" = (.ok loaded, ⟨1, [("/x.js", loaded)], none, 1⟩) := by
  have resolved : resolveIndex "/" onlyIndex "/x.js" = .ok "/x.js" := resolveIndex_alone indexFile
  have plain : FileTree.plain "/x.js" = "/x.js" := by decide +kernel
  have none (loaded : Loaded) : (Store.empty 1).cached.lookup (FileTree.plain "/x.js") =
      some loaded → loaded.isFresh onlyIndex = false := fun found => by cases found
  have serial : (Store.empty 1).nextSerial = 0 := rfl
  rw [Store.load, resolved]
  dsimp only
  rw [Store.fetch_of_stale none, Store.reload, serial, read, plain]
  rfl

theorem run_slashEvents {loaded : Loaded} (read : Loaded.read 0 onlyIndex "/x.js" = .ok loaded) :
    (start "/" onlyIndex 1).run slashEvents =
      ⟨"/", onlyIndex, ⟨1, [("/x.js", loaded)], some "/x.js/", 1⟩⟩ := by
  have step : (start "/" onlyIndex 1).run slashEvents =
      ⟨"/", onlyIndex, ((Store.empty 1).load "/" onlyIndex "/x.js").2.setActive "/x.js/"⟩ := rfl
  rw [step, load_onlyIndex read]
  rfl

theorem trusted_slashEvents {loaded : Loaded}
    (gave : (start "/" onlyIndex 1).Gave slashEvents loaded) : loaded.Trusted onlyIndex := by
  obtain ⟨first, read⟩ := exists_read_onlyIndex 0
  have only : loaded = first := by
    obtain ⟨_ | ⟨_, _ | ⟨_, before⟩⟩, event, after, split, answer⟩ := gave
    · cases split
      have answer : some ((Store.empty 1).load "/" onlyIndex "/x.js").1 = some (.ok loaded) := answer
      rw [load_onlyIndex read] at answer
      cases answer
      rfl
    · cases split
      cases answer
    · cases before <;> cases split
  exact only ▸ Loaded.trusted_of_read read

theorem answer_agrees_afresh_slash :
    let s := (start "/" onlyIndex 1).run slashEvents
    ∃ outcome, (s.step (.get (some "/x.js"))).1 = some outcome ∧
      Agrees (Named slashEvents) outcome (s.afresh (some "/x.js")) := by
  intro s
  obtain ⟨loaded, read⟩ := exists_read_onlyIndex 0
  have files : s.files = onlyIndex := congrArg Session.files (run_slashEvents read)
  have names : onlyIndex.StartsAtNames := fun _ member => by cases member
  have changes (tree : FileTree) (member : .change tree ∈ slashEvents) : tree.StartsAtNames := by
    simp [slashEvents] at member
  have asks : (Event.get (some "/x.js")).asks = some (some "/x.js") := by decide +kernel
  obtain ⟨outcome, answer, same | ⟨_, other, _⟩⟩ := answer_agrees_afresh names changes asks
    fun loaded (gave : (start "/" onlyIndex 1).Gave slashEvents loaded) =>
      files.symm ▸ trusted_slashEvents gave
  · exact ⟨outcome, answer, same⟩
  · cases other

/-- Keeping shows where no file can be read at the active path as it is spelled: the index that was
loaded under another spelling is given out. -/
theorem kept_index_answers_for_slash :
    let s := (start "/" onlyIndex 1).run slashEvents
    (∀ loaded, (start "/" onlyIndex 1).Gave slashEvents loaded → loaded.Trusted s.files) ∧
      ∃ loaded, (s.step (.get none)).1 = some (.ok loaded) ∧
        s.afresh none = .error (.unreadable "/x.js/" .notDirectory) := by
  intro s
  obtain ⟨loaded, read⟩ := exists_read_onlyIndex 0
  have state : s = ⟨"/", onlyIndex, ⟨1, [("/x.js", loaded)], some "/x.js/", 1⟩⟩ :=
    run_slashEvents read
  rw [state]
  refine ⟨fun loaded gave => trusted_slashEvents gave, loaded, ?_, ?_⟩
  · have plain : FileTree.plain "/x.js/" = "/x.js" := by decide +kernel
    have found : List.lookup (FileTree.plain "/x.js/") [("/x.js", loaded)] = some loaded := by
      rw [plain]
      simp
    simp [step, told, Store.get, Store.fetch, found, Loaded.isFresh_of_read read]
  · have resolved : onlyIndex.resolve "/x.js/" = .error .notDirectory := by
      have noNul : "/x.js/".contains '\x00' = false := by simp
      rw [FileTree.resolve, if_neg (by simp [noNul])]
      rfl
    have unreadable : onlyIndex.file "/x.js/" = .error .notDirectory := by
      rw [FileTree.file, FileTree.node, resolved]
      rfl
    simp [afresh, reading, Loaded.read, unreadable]

end Session
end DocSearch
