import DocSearch.Proofs.Overlap.Alone
import DocSearch.Proofs.Overlap.Replies
import DocSearch.Service.Server
import DocSearch.Stem.Snowball

/- Loads that fail. At most the entry of the path itself is forgotten, and only if its file is not as it
was, so that the next question is answered as if the load had not been asked for. -/
namespace DocSearch

namespace Store
open FileTree
variable {store after : Store} {config : Config} {home path resolved : String} {tree : FileTree}
  {e : LoadError}

/-- Loading the index at the path fails, in one of the ways in which it can be asked for. -/
inductive Fails [Stemmers] (store : Store) (config : Config) (home : String) (tree : FileTree)
    (path : String) (after : Store) : Prop
  | load {e : LoadError} (failed : store.load home tree path = (.error e, after))
  | activate {e : LoadError} (failed : store.activate home tree path = (.error e, after))
  | request {text : String}
    (failed : store.reply config home tree (.loadIndex path) = (.error text, after))

/-- The entries are those of the store, or one is missing whose path is this one and whose file is not
as it was. -/
def LosesStale (store : Store) (home : String) (tree : FileTree) (path : String)
    (entries : Recent Loaded) : Prop :=
  entries = store.cached ∨ ∃ resolved front old back, resolveIndex home tree path = .ok resolved ∧
    store.cached = front ++ (plain resolved, old) :: back ∧ old.isFresh tree = false ∧
      entries = front ++ back

/-- What a failure leaves as it was. -/
structure Spared (store : Store) (home : String) (tree : FileTree) (path : String) (after : Store) :
    Prop where
  active : after.active = store.active
  kept : store.LosesStale home tree path after.cached
  answers : ∀ asked, (after.get home tree asked).1 = (store.get home tree asked).1
  /-- A call that is alone, with the same indexes kept, comes to a failure too and leaves no load under
  way. -/
  alone : ∀ resolved, resolveIndex home tree path = .ok resolved →
    ∀ first : Overlap.State, first.Idle → first.files = tree → first.kept = store.cached →
      (∃ s outcome, first.Alone resolved s ∧ s.answer? first.calls.length = some outcome) ∧
        ∀ s outcome, first.Alone resolved s → s.answer? first.calls.length = some outcome →
          s.Idle ∧ s.kept = after.cached ∧ ∃ e, outcome = .error e

theorem load_of_activate (failed : store.activate home tree path = (.error e, after)) :
    store.load home tree path = (.error e, after) := by
  unfold activate at failed
  split at failed
  · rename_i loads
    rw [loads]
    exact failed
  · cases failed

theorem activate_of_reply [Stemmers] {text : String}
    (failed : store.reply config home tree (.loadIndex path) = (.error text, after)) :
    ∃ e, store.activate home tree path = (.error e, after) := by
  rw [reply] at failed
  split at failed
  · rename_i e _ activates
    cases failed
    exact ⟨e, activates⟩
  · cases failed

theorem Fails.exists_load [Stemmers] (fails : store.Fails config home tree path after) :
    ∃ e, store.load home tree path = (.error e, after) := by
  cases fails with
  | load failed => exact ⟨_, failed⟩
  | activate failed => exact ⟨_, load_of_activate failed⟩
  | request failed =>
    obtain ⟨e, failed⟩ := activate_of_reply failed
    exact ⟨e, load_of_activate failed⟩

/-- Forgetting an index whose file is not as it was does not change what is answered. -/
theorem fetch_forget (stale : ∀ old, store.cached.lookup (plain resolved) = some old →
    old.isFresh tree = false) (path : String) :
    ({ store with cached := store.cached.forget (plain resolved) }.fetch tree path).1 =
      (store.fetch tree path).1 := by
  have found := Recent.lookup_forget store.cached (plain resolved) (plain path)
  by_cases same : plain path = plain resolved
  · rw [if_pos same] at found
    rw [fetch_of_stale (fun old here => by cases found.symm.trans here),
      fetch_of_stale (fun old here => stale old (same ▸ here)), reload_fst, reload_fst]
  · rw [if_neg same] at found
    unfold fetch
    rw [found]
    cases store.cached.lookup (plain path) with
    | none => rw [reload_fst, reload_fst]
    | some loaded =>
      dsimp only
      split
      · rfl
      · rw [reload_fst, reload_fst]

theorem get_forget (stale : ∀ old, store.cached.lookup (plain resolved) = some old →
    old.isFresh tree = false) (asked : Option String) :
    ({ store with cached := store.cached.forget (plain resolved) }.get home tree asked).1 =
      (store.get home tree asked).1 := by
  unfold get
  cases asked.filter (!Text.isAllBlank ·) with
  | some path =>
    dsimp only [load]
    cases resolveIndex home tree path with
    | error e => rfl
    | ok path => exact fetch_forget stale path
  | none =>
    dsimp only
    cases current : store.active with
    | none => rfl
    | some path =>
      have same := fetch_forget stale path
      rwa [current] at same

theorem losesStale_forget (distinct : (store.cached.map Prod.fst).Nodup)
    (resolves : resolveIndex home tree path = .ok resolved)
    (stale : ∀ old, store.cached.lookup (plain resolved) = some old → old.isFresh tree = false) :
    store.LosesStale home tree path (store.cached.forget (plain resolved)) := by
  cases found : store.cached.lookup (plain resolved) with
  | none => exact Or.inl (Recent.forget_of_new (Recent.not_mem_of_lookup found))
  | some old =>
    obtain ⟨front, back, split, less⟩ := Recent.forget_split distinct found
    exact Or.inr ⟨resolved, front, old, back, resolves, split, stale old found, less⟩

theorem alone_unread {first s : Overlap.State} {outcome : Overlap.Outcome}
    (stale : ∀ old, first.kept.lookup (plain resolved) = some old → old.isFresh first.files = false)
    (unread : Loaded.read store.nextSerial first.files resolved = .error e) (idle : first.Idle)
    (alone : first.Alone resolved s) (answered : s.answer? first.calls.length = some outcome) :
    s.Idle ∧ s.kept = first.kept.forget (plain resolved) ∧ ∃ e, outcome = .error e := by
  obtain ⟨idle, after, fetched, kept⟩ := alone.fetched idle none answered
  refine ⟨idle, ?_⟩
  rw [← kept]
  cases fetched with
  | kept found fresh => cases (stale _ found).symm.trans fresh
  | read _ read =>
    rw [Loaded.read_renumbered _ store.nextSerial, unread] at read
    cases read
  | unread => exact ⟨rfl, _, rfl⟩

theorem Fails.spared [Stemmers] (fails : store.Fails config home tree path after)
    (distinct : (store.cached.map Prod.fst).Nodup) : store.Spared home tree path after := by
  obtain ⟨e, failed⟩ := fails.exists_load
  rcases load_cases store home tree path with ⟨e, resolves, refused⟩ | ⟨resolved, resolves, fetched⟩
  · cases failed.symm.trans refused
    refine ⟨rfl, Or.inl rfl, fun _ => rfl, fun resolved same => ?_⟩
    cases same.symm.trans resolves
  · rw [failed] at fetched
    cases fetched with
    | unread stale unread =>
      refine ⟨rfl, losesStale_forget distinct resolves stale, get_forget stale, ?_⟩
      intro other same first idle files kept
      cases same.symm.trans resolves
      refine ⟨idle.exists_alone resolved, fun s outcome alone answered => ?_⟩
      have same := alone_unread (kept ▸ files ▸ stale) (files ▸ unread) idle alone answered
      rwa [kept] at same

end Store

namespace Session

/-- A load that fails, in whatever state a session has come to, leaves the active path as it was, and the
kept indexes as they were and in their order, but that the index of the path itself may be gone if its
file is not as it was. No load is left under way, and what is asked next is answered as if the load had
not been asked for. -/
theorem failed_load_spares_store [Stemmers] {capacity : Nat} (room : 0 < capacity) (home : String)
    (files : FileTree) (events : List Event) {config : Config} {path : String} {after : Store} :
    let s := (start home files capacity).run events
    s.store.Fails config s.home s.files path after → s.store.Spared s.home s.files path after :=
  fun fails => fails.spared (ordered_run room home files events).tidy.distinct

open Overlap.State (emptyFile brokenIndex read_brokenIndex)

def breakingEvents : List Event := [.activate "/x.js", .change brokenIndex]

theorem run_breakingEvents {loaded : Loaded} (read : Loaded.read 0 onlyIndex "/x.js" = .ok loaded) :
    (start "/" onlyIndex 1).run breakingEvents =
      ⟨"/", brokenIndex, ⟨1, [("/x.js", loaded)], some "/x.js", 1⟩⟩ := by
  have run : (start "/" onlyIndex 1).run breakingEvents =
      ⟨"/", brokenIndex, ((Store.empty 1).activate "/" onlyIndex "/x.js").2⟩ := rfl
  obtain ⟨_, _, path, _⟩ := Loaded.read_eq_ok.1 read
  rw [run, Store.activate, load_onlyIndex read]
  dsimp only
  rw [path]
  rfl

theorem failed_load_spares_store_broken :
    let s := (start "/" onlyIndex 1).run breakingEvents
    0 < 1 ∧ ∃ after, s.store.Fails .default s.home s.files "/x.js" after ∧
      s.store.Spared s.home s.files "/x.js" after ∧
        s.store.cached.length = 1 ∧ after.cached = [] := by
  intro s
  obtain ⟨first, readFirst⟩ := exists_read_onlyIndex 0
  have state : s = ⟨"/", brokenIndex, ⟨1, [("/x.js", first)], some "/x.js", 1⟩⟩ :=
    run_breakingEvents readFirst
  have plain : FileTree.plain "/x.js" = "/x.js" := by decide +kernel
  obtain ⟨e, unread⟩ : ∃ e, Loaded.read s.store.nextSerial s.files "/x.js" = .error e := by
    obtain ⟨e, unread⟩ := read_brokenIndex
    rw [state, Loaded.read_renumbered _ 0, unread]
    exact ⟨e, rfl⟩
  have stale (old : Loaded) (found : s.store.cached.lookup (FileTree.plain "/x.js") = some old) :
      old.isFresh s.files = false := by
    have same : old = first := by
      rw [state, plain] at found
      simpa using found.symm
    obtain ⟨genuine, _, path, there⟩ := Loaded.read_eq_ok.1 readFirst
    have file : indexFile = first.file := Except.ok.inj ((FileTree.file_alone indexFile).symm.trans there)
    have broken : s.files.file "/x.js" = .ok emptyFile := by
      rw [state]
      exact FileTree.file_alone emptyFile
    rw [same, Loaded.isFresh, path, broken]
    refine Bool.eq_false_iff.2 fun fresh => ?_
    rcases Loaded.sameFile_iff.1 fresh with ⟨_, time⟩ | bytes
    · rw [← file] at time
      cases time
    · -- With the same bytes the broken file could be read.
      obtain ⟨_, again, _⟩ := genuine.read bytes broken s.store.nextSerial
      cases unread.symm.trans again
  have loads : s.store.load s.home s.files "/x.js" =
      (.error e, { s.store with cached := s.store.cached.forget "/x.js" }) := by
    have resolves : resolveIndex s.home s.files "/x.js" = .ok "/x.js" := by
      rw [state]
      exact resolveIndex_alone emptyFile
    rw [Store.load, resolves]
    dsimp only
    rw [Store.fetch_of_stale stale, Store.reload, unread, plain]
  have fails : s.store.Fails .default s.home s.files "/x.js"
      { s.store with cached := s.store.cached.forget "/x.js" } := by
    have replies : s.store.reply .default s.home s.files (.loadIndex "/x.js") =
        (.error ("Failed to load index: " ++ e.message),
          { s.store with cached := s.store.cached.forget "/x.js" }) := by
      rw [Store.reply, Store.activate, loads]
    exact .request replies
  refine ⟨by decide, _, fails, failed_load_spares_store (by decide) "/" onlyIndex _ fails, ?_, ?_⟩
  · rw [state]
    rfl
  · rw [state]
    simp [Recent.forget]

end Session
end DocSearch
