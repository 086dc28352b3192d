import DocSearch.Proofs.KeyMap
import DocSearch.Proofs.Overlap.Steps
import DocSearch.Proofs.Store.Freshness
import DocSearch.Proofs.Store.Recent

/- No file is read by two loads at once: a path is listed as running exactly while a load of it is
under way, and what a load has read is kept before the load is taken off the list. -/
namespace DocSearch.Overlap
open FileTree

def LoadPhase.isGoing : LoadPhase → Bool
  | .finished _ => false
  | _ => true

def LoadPhase.keptIndex? : LoadPhase → Option Loaded
  | .hasKept (.ok loaded) | .finished (.ok loaded) => some loaded
  | _ => none

namespace State
variable {s next : State} {number : Nat} {path : String} {event : Event}

theorem isUnfinished_iff : s.isUnfinished number = true ↔
    ∃ load, s.loads[number]? = some load ∧ load.phase.isGoing = true := by
  unfold isUnfinished
  cases here : s.loads[number]? with
  | none => simp
  | some load =>
    obtain ⟨path, phase⟩ := load
    cases phase <;> simp [LoadPhase.isGoing]

theorem loads_setLoad {phase : LoadPhase} {other : Nat} {load : Load}
    (here : (s.setLoad number path phase).loads[other]? = some load) :
    other = number ∧ load = ⟨path, phase⟩ ∨ other ≠ number ∧ s.loads[other]? = some load :=
  of_getElem?_set here

theorem loads_setLoad_self {old : Load} (here : s.loads[number]? = some old) (path : String)
    (phase : LoadPhase) : (s.setLoad number path phase).loads[number]? = some ⟨path, phase⟩ := by
  obtain ⟨bound, _⟩ := List.getElem?_eq_some_iff.1 here
  exact List.getElem?_set_self bound

theorem loads_setLoad_ne {other : Nat} (differs : other ≠ number) (path : String)
    (phase : LoadPhase) : (s.setLoad number path phase).loads[other]? = s.loads[other]? :=
  List.getElem?_set_ne differs.symm

theorem loads_listLoad {load : Load} (here : (s.listLoad path).loads[number]? = some load) :
    s.loads[number]? = some load ∨ number = s.loads.length ∧ load = ⟨path, .listed⟩ :=
  of_getElem?_concat here

theorem loads_listLoad_of_some {load : Load} (here : s.loads[number]? = some load) (path : String) :
    (s.listLoad path).loads[number]? = some load := by
  obtain ⟨bound, _⟩ := List.getElem?_eq_some_iff.1 here
  exact (List.getElem?_append_left bound).trans here

theorem loads_listLoad_last (s : State) (path : String) :
    (s.listLoad path).loads[s.loads.length]? = some ⟨path, .listed⟩ :=
  List.getElem?_concat_length

theorem CallStep.listed {phase after : CallPhase} {base : State}
    (step : CallStep s path phase base after) :
    base.running = s.running ∧ base.loads = s.loads ∨
      s.running.lookup (plain path) = none ∧ base.running = (s.listLoad path).running ∧
        base.loads = (s.listLoad path).loads := by
  cases step
  case list idle => exact Or.inr ⟨idle, rfl, rfl⟩
  all_goals exact Or.inl ⟨rfl, rfl⟩

/-- What is listed as running is a load under way, and no path is listed twice. -/
structure Running (s : State) : Prop where
  once : (s.running.map Prod.fst).Nodup
  going : ∀ key number, (key, number) ∈ s.running →
    ∃ load, s.loads[number]? = some load ∧ plain load.path = key ∧ load.phase.isGoing = true

def Listed (s : State) : Prop := ∀ (number : Nat) (load : Load), s.loads[number]? = some load →
  load.phase.isGoing = true → (plain load.path, number) ∈ s.running

/-- An index is kept before its load is taken off the list. -/
def KeptFirst (first : State) (events : List Event) (s : State) : Prop :=
  ∀ (number : Nat) (load : Load) (loaded : Loaded), s.loads[number]? = some load →
    load.phase.keptIndex? = some loaded → ∃ t : State, first.Passes events t ∧
      t.loads[number]? = some ⟨load.path, .hasKept (.ok loaded)⟩ ∧
        t.kept.lookup (plain load.path) = some loaded

theorem Running.setLoad {old : LoadPhase} (running : s.Running)
    (here : s.loads[number]? = some ⟨path, old⟩) {phase : LoadPhase} (going : phase.isGoing = true) :
    (s.setLoad number path phase).Running := by
  refine ⟨running.once, fun key other member => ?_⟩
  obtain ⟨load, found, itsKey, itsPhase⟩ := running.going key other member
  by_cases same : other = number
  · subst same
    cases found.symm.trans here
    exact ⟨_, loads_setLoad_self here path phase, itsKey, going⟩
  · exact ⟨load, (loads_setLoad_ne same path phase).trans found, itsKey, itsPhase⟩

theorem CallStep.running {phase after : CallPhase} {base : State}
    (step : CallStep s path phase base after) (running : s.Running) : base.Running := by
  rcases step.listed with ⟨same, loads⟩ | ⟨idle, same, loads⟩
  · exact ⟨same ▸ running.once, same ▸ loads ▸ running.going⟩
  · refine ⟨?_, fun key number member => ?_⟩
    · rw [same]
      refine List.nodup_cons.2 ⟨fun member => ?_, running.once⟩
      obtain ⟨⟨key, load⟩, member, rfl⟩ := List.mem_map.1 member
      rw [lookup_of_mem running.once member] at idle
      cases idle
    · rw [same] at member
      rw [loads]
      rcases List.mem_cons.1 member with new | old
      · cases new
        exact ⟨_, loads_listLoad_last s path, rfl, rfl⟩
      · obtain ⟨load, found, its⟩ := running.going key number old
        exact ⟨load, loads_listLoad_of_some found path, its⟩

theorem Running.step (running : s.Running) (step : Step s event next) : next.Running := by
  cases step with
  | change | «begin» | abandon | forgetKept => exact ⟨running.once, running.going⟩
  | forgetRunning => exact ⟨List.nodup_nil, fun _ _ member => by cases member⟩
  | call _ step => exact ⟨(step.running running).once, (step.running running).going⟩
  | @load number path _ _ here step =>
    cases step with
    | read => exact running.setLoad here rfl
    | keep loaded =>
      have moved : (s.setLoad number path (.hasKept (.ok loaded))).Running := running.setLoad here rfl
      exact ⟨moved.once, moved.going⟩
    | keepNothing => exact running.setLoad here rfl
    | finish outcome =>
      refine ⟨running.once.sublist (List.filter_sublist.map Prod.fst), fun key other member => ?_⟩
      obtain ⟨member, differs⟩ := List.mem_filter.1 member
      obtain ⟨load, found, itsKey, itsPhase⟩ := running.going key other member
      have notIt : other ≠ number := by
        rintro rfl
        cases found.symm.trans here
        exact of_decide_eq_true differs itsKey.symm
      exact ⟨load, (loads_setLoad_ne notIt path _).trans found, itsKey, itsPhase⟩

theorem Listed.setLoad {old : LoadPhase} (listed : s.Listed)
    (here : s.loads[number]? = some ⟨path, old⟩) (going : old.isGoing = true) (phase : LoadPhase) :
    (s.setLoad number path phase).Listed := by
  intro other load found itsGoing
  rcases loads_setLoad found with ⟨rfl, rfl⟩ | ⟨_, before⟩
  · exact listed other ⟨path, old⟩ here going
  · exact listed other load before itsGoing

theorem CallStep.allListed {phase after : CallPhase} {base : State}
    (step : CallStep s path phase base after) (listed : s.Listed) : base.Listed := by
  rcases step.listed with ⟨same, loads⟩ | ⟨_, same, loads⟩
  · rw [Listed, same, loads]
    exact listed
  · intro number load found going
    rw [loads] at found
    rw [same]
    rcases loads_listLoad found with before | ⟨rfl, rfl⟩
    · exact List.mem_cons_of_mem _ (listed number load before going)
    · exact List.mem_cons_self

theorem Listed.step (listed : s.Listed) (running : s.Running) (step : Step s event next)
    (keeps : event ≠ .forgetRunning) : next.Listed := by
  cases step with
  | change | «begin» | abandon | forgetKept => exact listed
  | forgetRunning => exact absurd rfl keeps
  | call _ step => exact step.allListed listed
  | @load number path _ _ here step =>
    cases step with
    | read => exact listed.setLoad here rfl _
    | keep loaded => exact listed.setLoad here rfl (.hasKept (.ok loaded))
    | keepNothing => exact listed.setLoad here rfl _
    | finish outcome =>
      intro other load found going
      have member := listed.setLoad here rfl (.finished outcome) other load found going
      refine List.mem_filter.2 ⟨member, decide_eq_true fun same => ?_⟩
      -- Of one path only one load is listed, and it is the one that has finished.
      have its := lookup_of_mem running.once (listed number _ here rfl)
      have again := lookup_of_mem running.once member
      rw [show plain load.path = plain path from same, its] at again
      cases again
      cases (loads_setLoad_self here path (.finished outcome)).symm.trans found
      cases going

section
variable {first : State} {events : List Event}

theorem KeptFirst.setLoad (kept : KeptFirst first events s) {phase : LoadPhase}
    (new : ∀ loaded, phase.keptIndex? = some loaded → ∃ t : State, first.Passes events t ∧
      t.loads[number]? = some ⟨path, .hasKept (.ok loaded)⟩ ∧
        t.kept.lookup (plain path) = some loaded) :
    KeptFirst first events (s.setLoad number path phase) := by
  intro other load loaded found its
  rcases loads_setLoad found with ⟨rfl, rfl⟩ | ⟨_, old⟩
  · exact new loaded its
  · exact kept other load loaded old its

theorem CallStep.keptFirst {phase after : CallPhase} {base : State}
    (step : CallStep s path phase base after) (kept : KeptFirst first events s) :
    KeptFirst first events base := by
  rcases step.listed with ⟨_, loads⟩ | ⟨_, _, loads⟩
  · rw [KeptFirst, loads]
    exact kept
  · intro number load loaded here its
    rw [loads] at here
    rcases loads_listLoad here with old | ⟨_, rfl⟩
    · exact kept number load loaded old its
    · cases its

theorem KeptFirst.step (kept : KeptFirst first events s) (room : 0 < s.capacity)
    (step : Step s event next) (passes : first.Passes events next) : KeptFirst first events next := by
  cases step with
  | change | «begin» | abandon | forgetKept | forgetRunning => exact kept
  | call _ step => exact step.keptFirst kept
  | @load number path _ _ here step =>
    cases step with
    | read | keepNothing => exact kept.setLoad fun _ its => by cases its
    | keep loaded =>
      have moved : KeptFirst first events (s.setLoad number path (.hasKept (.ok loaded))) := by
        refine kept.setLoad fun same its => ?_
        cases its
        exact ⟨_, passes, loads_setLoad_self here _ _, Recent.lookup_put room _ _ _⟩
      exact moved
    | finish outcome =>
      have moved : KeptFirst first events (s.setLoad number path (.finished outcome)) := by
        refine kept.setLoad fun loaded its => kept number ⟨path, .hasKept outcome⟩ loaded here ?_
        cases outcome <;> exact its
      exact moved

theorem Step.capacity (step : Step s event next) : next.capacity = s.capacity := by
  cases step with
  | call _ step => cases step <;> rfl
  | load _ step => cases step <;> rfl
  | _ => rfl

theorem Passes.running_of (passes : first.Passes events s) (running : first.Running) : s.Running :=
  takes_induction Running running (fun _ _ _ takes running => running.step takes.step) passes

theorem Passes.capacity_of (passes : first.Passes events s) : s.capacity = first.capacity :=
  takes_induction (·.capacity = first.capacity) rfl
    (fun _ _ _ takes same => takes.step.capacity.trans same) passes

end

section
variable {capacity : Nat} {files : FileTree} {events : List Event}

theorem Passes.running (passes : (initial capacity files).Passes events s) : s.Running := by
  have atFirst : (initial capacity files).Running :=
    ⟨List.nodup_nil, fun _ _ member => by cases member⟩
  exact passes.running_of atFirst

theorem Passes.listed (passes : (initial capacity files).Passes events s)
    (keeps : Event.forgetRunning ∉ events) : s.Listed := by
  refine passes_induction Listed (fun _ _ found => by cases found) ?_ passes
  intro event member s next before _ step listed
  refine Listed.step listed before.running step ?_
  rintro rfl
  exact keeps member

theorem Passes.keptFirst (passes : (initial capacity files).Passes events s) (room : 0 < capacity) :
    KeptFirst (initial capacity files) events s := by
  refine passes_induction (KeptFirst (initial capacity files) events)
    (fun _ _ _ found => by cases found) ?_ passes
  intro event _ s next before after step kept
  exact KeptFirst.step kept (before.capacity_of ▸ room) step after

/-- While the list of running loads is not forgotten, at most one load of a path is under way, the
path is listed as running exactly as long as one is, and an index that was loaded was kept before its
load was taken off the list. -/
theorem single_flight (ran : (initial capacity files).run? events = some s) (room : 0 < capacity)
    (keeps : Event.forgetRunning ∉ events) :
    (∀ (m n : Nat) (a b : Load), s.loads[m]? = some a → s.loads[n]? = some b →
      s.isUnfinished m = true → s.isUnfinished n = true → plain a.path = plain b.path → m = n) ∧
    (∀ path, s.isRunning path = true ↔ ∃ (m : Nat) (load : Load), s.loads[m]? = some load ∧
      s.isUnfinished m = true ∧ plain load.path = plain path) ∧
    ∀ (m : Nat) (path : String) (loaded : Loaded),
      s.loads[m]? = some ⟨path, .finished (.ok loaded)⟩ →
        ∃ t : State, (initial capacity files).Passes events t ∧
          t.loads[m]? = some ⟨path, .hasKept (.ok loaded)⟩ ∧
            t.kept.lookup (plain path) = some loaded := by
  have passes := passes_last ran
  have running := passes.running
  have listed {m : Nat} {load : Load} (here : s.loads[m]? = some load)
      (unfinished : s.isUnfinished m = true) : s.running.lookup (plain load.path) = some m := by
    obtain ⟨same, found, going⟩ := isUnfinished_iff.1 unfinished
    cases here.symm.trans found
    exact lookup_of_mem running.once (passes.listed keeps m load here going)
  refine ⟨fun m n a b here there going goingToo same => ?_, fun path => ⟨fun isRunning => ?_, ?_⟩, ?_⟩
  · have one := listed here going
    rw [same, listed there goingToo] at one
    exact (Option.some.inj one).symm
  · obtain ⟨m, found⟩ := Option.isSome_iff_exists.1 isRunning
    obtain ⟨load, here, its, going⟩ := running.going _ m (mem_of_lookup found)
    exact ⟨m, load, here, isUnfinished_iff.2 ⟨load, here, going⟩, its⟩
  · rintro ⟨m, load, here, unfinished, same⟩
    rw [isRunning, ← same, listed here unfinished]
    rfl
  · exact fun m path loaded here => passes.keptFirst room m _ loaded here rfl

end

def oneLoad : List Event :=
  [.beginCall "/x.js", .advanceCall 0, .advanceCall 0, .advanceCall 0, .advanceLoad 0,
    .advanceLoad 0, .advanceLoad 0]

theorem run_oneLoad {loaded : Loaded} (read : Loaded.read 0 onlyIndex "/x.js" = .ok loaded) :
    (initial 1 onlyIndex).run? oneLoad = some ⟨1, onlyIndex, [(plain "/x.js", loaded)], [],
      [⟨"/x.js", .waiting 0⟩], [⟨"/x.js", .finished (.ok loaded)⟩]⟩ := by
  have begun : (initial 1 onlyIndex).run? (oneLoad.take 5) = some ⟨1, onlyIndex, [],
      [(plain "/x.js", 0)], [⟨"/x.js", .waiting 0⟩],
      [⟨"/x.js", .hasRead (Loaded.read 0 onlyIndex "/x.js")⟩]⟩ := rfl
  rw [← List.take_append_drop 5 oneLoad, run?_append, begun, read]
  simp [oneLoad, run?, step?, advanceLoad, setLoad, Recent.put, Recent.forget]

theorem single_flight_one_load : ∃ s loaded, (initial 1 onlyIndex).run? oneLoad = some s ∧
    s.loads[0]? = some ⟨"/x.js", .finished (.ok loaded)⟩ ∧
      ∃ t : State, (initial 1 onlyIndex).Passes oneLoad t ∧
        t.kept.lookup (plain "/x.js") = some loaded := by
  obtain ⟨loaded, read⟩ := exists_read_onlyIndex 0
  have ran := run_oneLoad read
  have finished := (single_flight ran (by decide) (by simp [oneLoad])).2.2 0 "/x.js" loaded rfl
  obtain ⟨t, passes, _, kept⟩ := finished
  exact ⟨_, loaded, ran, rfl, t, passes, kept⟩

end State
end DocSearch.Overlap
