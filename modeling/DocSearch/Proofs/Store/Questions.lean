import DocSearch.Proofs.Store.Freshness
import DocSearch.Proofs.Store.Recent
import DocSearch.Proofs.Tree.Spelling
import DocSearch.Store.Basic

/- Questions to a store. While what stands at its paths with the size and the time of a kept file is
that file, the answer is what reading the file would give, and all that is kept was an answer. -/
namespace DocSearch

/-- Two outcomes of loading tell the same: of two indexes the contents are the same, and so are the
paths. The first path stands in its plainest spelling or in one of the given ones. -/
inductive Agrees (spellings : String → Prop) :
    Except LoadError Loaded → Except LoadError Loaded → Prop
  | error (e : LoadError) : Agrees spellings (.error e) (.error e)
  | ok {a b : Loaded} (content : a.content = b.content)
    (path : FileTree.plain a.path = FileTree.plain b.path)
    (spelling : FileTree.plain a.path = a.path ∨ spellings a.path) : Agrees spellings (.ok a) (.ok b)

theorem plain_resolveIndex {home path resolved : String} {tree : FileTree}
    (start : tree.StartsAtNames) (found : resolveIndex home tree path = .ok resolved) :
    FileTree.plain resolved = resolved := by
  unfold resolveIndex at found
  dsimp only at found
  split at found
  · cases found
  · split at found
    · cases found
    · rename_i canonical
      cases found
      exact FileTree.plain_canonical start canonical

namespace Store
variable {spellings : String → Prop} {store : Store} {tree : FileTree} {path : String}

structure Entered (spellings : String → Prop) (entry : String × Loaded) : Prop where
  key : entry.1 = FileTree.plain entry.2.path
  genuine : entry.2.Genuine
  spelling : FileTree.plain entry.2.path = entry.2.path ∨ spellings entry.2.path

theorem agrees_read (spelling : FileTree.plain path = path ∨ spellings path) (m n : Nat) :
    Agrees spellings (Loaded.read m tree path) (Loaded.read n tree path) := by
  rw [Loaded.read_renumbered m n]
  cases done : Loaded.read n tree path with
  | error e => exact .error e
  | ok loaded =>
    obtain ⟨_, _, rfl, _⟩ := Loaded.read_eq_ok.1 done
    exact .ok rfl rfl spelling

theorem fetch_of_stale (stale : ∀ loaded, store.cached.lookup (FileTree.plain path) = some loaded →
    loaded.isFresh tree = false) : store.fetch tree path = store.reload tree path := by
  unfold fetch
  cases found : store.cached.lookup (FileTree.plain path) with
  | none => rfl
  | some loaded => simp [stale loaded found]

theorem reload_fst : (store.reload tree path).1 = Loaded.read store.nextSerial tree path := by
  unfold reload
  cases Loaded.read store.nextSerial tree path <;> rfl

theorem fetch_agrees (entered : ∀ entry ∈ store.cached, Entered spellings entry)
    (trusted : ∀ entry ∈ store.cached, entry.2.Trusted tree)
    (spelling : FileTree.plain path = path ∨ spellings path) (serial : Nat) :
    Agrees spellings (store.fetch tree path).1 (Loaded.read serial tree path) ∨
      FileTree.plain path ≠ path ∧ (∃ e, Loaded.read serial tree path = .error e) ∧
        Agrees spellings (store.fetch tree path).1
          (Loaded.read serial tree (FileTree.plain path)) := by
  by_cases fresh : ∃ loaded, store.cached.lookup (FileTree.plain path) = some loaded ∧
      loaded.isFresh tree = true
  · obtain ⟨loaded, found, fresh⟩ := fresh
    have answer : (store.fetch tree path).1 = .ok loaded := by
      simp [fetch, found, fresh]
    have member := mem_of_lookup found
    obtain ⟨key, genuine, spelled⟩ := entered _ member
    obtain ⟨now, readable, same⟩ := Loaded.exists_file_of_fresh (trusted _ member) fresh
    have key : FileTree.plain path = FileTree.plain loaded.path := key
    have there : tree.file (FileTree.plain path) = .ok now := key ▸ FileTree.file_plain readable
    have plainer : FileTree.plain (FileTree.plain path) = FileTree.plain path := by
      rw [key]
      exact FileTree.plain_plain (FileTree.moving_of_file readable)
    rw [answer]
    cases here : tree.file path with
    | ok data =>
      -- The path is a spelling that can be read itself, so it leads to the same file.
      have same : data.bytes = loaded.file.bytes := by
        have both := FileTree.file_plain here
        rw [there] at both
        cases both
        exact same
      obtain ⟨again, done, itsPath, content⟩ := genuine.read same here serial
      rw [done]
      exact Or.inl (.ok content.symm (by rw [itsPath, ← key]) spelled)
    | error fault =>
      have other : FileTree.plain path ≠ path := by
        intro plain
        rw [plain, here] at there
        cases there
      obtain ⟨again, done, itsPath, content⟩ := genuine.read same there serial
      refine Or.inr ⟨other, ⟨.unreadable path fault, by rw [Loaded.read, here]⟩, ?_⟩
      rw [done]
      exact .ok content.symm (by rw [itsPath, plainer, ← key]) spelled
  · have stale : ∀ loaded, store.cached.lookup (FileTree.plain path) = some loaded →
        loaded.isFresh tree = false := by
      intro loaded found
      exact Bool.eq_false_iff.2 fun isFresh => fresh ⟨loaded, found, isFresh⟩
    rw [fetch_of_stale stale, reload_fst]
    exact Or.inl (agrees_read spelling _ _)

/-- What a question to a store can change in it: an entry that is added is the answer, and so is a
path that becomes active. -/
structure Asked (spellings : String → Prop) (before : Store) (answer : Except LoadError Loaded)
    (after : Store) : Prop where
  entries : ∀ entry ∈ after.cached,
    entry ∈ before.cached ∨ Entered spellings entry ∧ answer = .ok entry.2
  spelling : ∀ loaded, answer = .ok loaded →
    FileTree.plain loaded.path = loaded.path ∨ spellings loaded.path
  active : ∀ path, after.active = some path →
    before.active = some path ∨ ∃ loaded, answer = .ok loaded ∧ path = loaded.path

theorem asked_error (store : Store) (e : LoadError) : store.Asked spellings (.error e) store where
  entries _ member := Or.inl member
  spelling _ done := by cases done
  active _ same := Or.inl same

theorem asked_reload (spelling : FileTree.plain path = path ∨ spellings path) :
    store.Asked spellings (store.reload tree path).1 (store.reload tree path).2 := by
  unfold reload
  cases done : Loaded.read store.nextSerial tree path with
  | error e =>
    exact ⟨fun _ member => Or.inl (List.mem_of_mem_filter member), fun _ done => (by cases done),
      fun _ same => Or.inl same⟩
  | ok loaded =>
    obtain ⟨genuine, _, rfl, _⟩ := Loaded.read_eq_ok.1 done
    refine ⟨fun entry member => ?_, fun _ done => ?_, fun _ same => Or.inl same⟩
    · rcases Recent.mem_put member with rfl | old
      · exact Or.inr ⟨⟨rfl, genuine, spelling⟩, rfl⟩
      · exact Or.inl old
    · cases done
      exact spelling

theorem asked_fetch (entered : ∀ entry ∈ store.cached, Entered spellings entry)
    (spelling : FileTree.plain path = path ∨ spellings path) :
    store.Asked spellings (store.fetch tree path).1 (store.fetch tree path).2 := by
  unfold fetch
  cases found : store.cached.lookup (FileTree.plain path) with
  | none => exact asked_reload spelling
  | some loaded =>
    dsimp only
    split
    · refine ⟨fun _ member => Or.inl (Recent.mem_of_mem_promote member), fun _ done => ?_,
        fun _ same => Or.inl same⟩
      cases done
      exact (entered _ (mem_of_lookup found)).spelling
    · exact asked_reload spelling

section
variable {home : String} (entered : ∀ entry ∈ store.cached, Entered spellings entry)
  (start : tree.StartsAtNames)
include entered start

theorem asked_load (path : String) : store.Asked spellings (store.load home tree path).1
    (store.load home tree path).2 := by
  unfold load
  cases found : resolveIndex home tree path with
  | error e => exact asked_error store e
  | ok resolved => exact asked_fetch entered (Or.inl (plain_resolveIndex start found))

theorem asked_activate (path : String) : store.Asked spellings (store.activate home tree path).1
    (store.activate home tree path).2 := by
  have asked : store.Asked spellings (store.load home tree path).1 (store.load home tree path).2 :=
    asked_load entered start path
  unfold activate
  rcases done : store.load home tree path with ⟨e | loaded, after⟩
  · rw [done] at asked
    exact asked
  · rw [done] at asked
    refine ⟨asked.entries, asked.spelling, fun path same => Or.inr ⟨loaded, rfl, ?_⟩⟩
    exact (Option.some.inj same).symm

theorem asked_get (active : ∀ path, store.active = some path →
      FileTree.plain path = path ∨ spellings path) (path : Option String) :
    store.Asked spellings (store.get home tree path).1 (store.get home tree path).2 := by
  unfold get
  cases path.filter (!Text.isAllBlank ·) with
  | some path => exact asked_load entered start path
  | none =>
    cases found : store.active with
    | none => exact asked_error store _
    | some path => exact asked_fetch entered (active path found)

end

end Store

end DocSearch
