import DocSearch.Proofs.Overlap.Generations

/- What comes after a moment at which nothing of a path is kept, loading or asked for. While the file
does not change and no load pushes its index out, all that is read, kept and told of the path from then
on comes from loads that are listed from then on. -/
namespace DocSearch.Overlap.State
open FileTree
variable {s next first : State} {event : Event} {events : List Event} {number : Nat} {path : String}

/-- Nothing is kept for the path, no load of it is under way and no call for it is pending. -/
structure AtRest (s : State) (key : String) : Prop where
  kept : s.kept.lookup key = none
  loads : ∀ (number : Nat) (load : Load), s.loads[number]? = some load → plain load.path = key →
    load.phase.isGoing = false
  calls : ∀ (number : Nat) (call : Call), s.calls[number]? = some call → plain call.path = key →
    isOver call.phase = true

section
variable (first : State) (events : List Event) (path : String)

/-- The file stays as it is, calls spell its path in one way, nothing is forgotten, and no load pushes
its index out. -/
structure Calm : Prop where
  file : ∀ s, first.Passes events s → s.files.file path = first.files.file path
  spelled : ∀ other, .beginCall other ∈ events → plain other = plain path → other = path
  kept : .forgetKept ∉ events
  running : .forgetRunning ∉ events
  room : ∀ s next number, first.Takes events s (.advanceLoad number) next →
    (s.kept.lookup (plain path)).isSome = true → (next.kept.lookup (plain path)).isSome = true

def ReadSince (s : State) (loaded : Loaded) : Prop :=
  ∃ number phase, first.loads.length ≤ number ∧ s.loads[number]? = some ⟨path, phase⟩ ∧
    phase.read? = some (.ok loaded)

def ListedSince (s : State) (number : Nat) : Prop :=
  first.loads.length ≤ number ∧ ∃ phase, s.loads[number]? = some ⟨path, phase⟩

/-- What is known of a call for the path in each phase. -/
def Known (s : State) : CallPhase → Prop
  | .started | .foundNone | .needsLoad | .answered (.error _) | .abandoned => True
  | .foundKept loaded | .foundJoined loaded | .answered (.ok loaded) =>
    ReadSince first path s loaded
  | .joined load | .waiting load => ListedSince first path s load
  | .foundStale | .foundJoinedStale => False

/-- All that is told, read and kept of the path since comes from loads listed since. -/
structure Traced (s : State) : Prop where
  callsGrow : first.calls.length ≤ s.calls.length
  loadsGrow : first.loads.length ≤ s.loads.length
  calls : ∀ (number : Nat) (call : Call), s.calls[number]? = some call →
    plain call.path = plain path →
      number < first.calls.length ∧ isOver call.phase = true ∨
        first.calls.length ≤ number ∧ call.path = path ∧ Known first path s call.phase
  loads : ∀ (number : Nat) (load : Load), s.loads[number]? = some load →
    plain load.path = plain path →
      number < first.loads.length ∧ load.phase.isGoing = false ∨
        first.loads.length ≤ number ∧ load.path = path ∧
          ∀ outcome, load.phase.read? = some outcome →
            outcome = Loaded.read number first.files path
  kept : ∀ loaded, s.kept.lookup (plain path) = some loaded → ReadSince first path s loaded

end

theorem ReadSince.step {loaded : Loaded} (since : ReadSince first path s loaded)
    (step : Step s event next) : ReadSince first path next loaded := by
  obtain ⟨number, phase, late, here, read⟩ := since
  obtain ⟨after, there, same⟩ := step.read_stays here read
  exact ⟨number, after, late, there, same⟩

theorem ListedSince.step (since : ListedSince first path s number) (step : Step s event next) :
    ListedSince first path next number := by
  obtain ⟨late, phase, here⟩ := since
  exact ⟨late, step.load_stays here⟩

theorem Known.step {phase : CallPhase} (known : Known first path s phase)
    (step : Step s event next) : Known first path next phase := by
  cases phase with
  | started | foundNone | needsLoad | abandoned => trivial
  | foundKept | foundJoined => exact ReadSince.step known step
  | joined | waiting => exact ListedSince.step known step
  | foundStale | foundJoinedStale => exact known
  | answered outcome =>
    cases outcome with
    | error => trivial
    | ok => exact ReadSince.step known step

section
variable (traced : Traced first path s)
include traced

theorem Traced.callSince {call : Call} (here : s.calls[number]? = some call)
    (its : plain call.path = plain path) (late : first.calls.length ≤ number) :
    Known first path s call.phase := by
  rcases traced.calls number call here its with ⟨early, _⟩ | ⟨_, _, known⟩
  · omega
  · exact known

theorem Traced.pending {call : Call} (here : s.calls[number]? = some call)
    (its : plain call.path = plain path) (pending : isOver call.phase = false) :
    first.calls.length ≤ number ∧ call.path = path ∧ Known first path s call.phase := by
  rcases traced.calls number call here its with ⟨_, ended⟩ | since
  · rw [pending] at ended
    cases ended
  · exact since

theorem Traced.loadSince {load : Load} (here : s.loads[number]? = some load)
    (its : plain load.path = plain path) (late : first.loads.length ≤ number) :
    load.path = path ∧ ∀ outcome, load.phase.read? = some outcome →
      outcome = Loaded.read number first.files path := by
  rcases traced.loads number load here its with ⟨early, _⟩ | ⟨_, since⟩
  · omega
  · exact since

theorem Traced.going {load : Load} (here : s.loads[number]? = some load)
    (its : plain load.path = plain path) (going : load.phase.isGoing = true) :
    first.loads.length ≤ number ∧ load.path = path := by
  rcases traced.loads number load here its with ⟨_, ended⟩ | ⟨late, same, _⟩
  · rw [ended] at going
    cases going
  · exact ⟨late, same⟩

theorem Traced.fresh (file : s.files.file path = first.files.file path) {loaded : Loaded}
    (since : ReadSince first path s loaded) : loaded.isFresh s.files = true := by
  obtain ⟨number, phase, late, here, read⟩ := since
  have done := ((traced.loadSince here rfl late).2 _ read).symm
  have its := (Loaded.read_eq_ok.1 done).2.2.1
  rw [Loaded.isFresh_congr (its ▸ file)]
  exact Loaded.isFresh_of_read done

theorem Traced.listedSince (running : s.Running) {load : Nat}
    (found : s.running.lookup (plain path) = some load) : ListedSince first path s load := by
  obtain ⟨⟨its, phase⟩, here, same, going⟩ := running.going _ load (mem_of_lookup found)
  obtain ⟨late, rfl⟩ := traced.going here same going
  exact ⟨late, phase, here⟩

theorem Traced.known_after (running : s.Running) (file : s.files.file path = first.files.file path)
    {phase after : CallPhase} {base : State} (step : CallStep s path phase base after)
    (known : Known first path s phase) :
    Known first path (base.setCall number path after) after := by
  cases step with
  | findKept found => exact traced.kept _ found
  | findNone | findIdle | answerFailure => trivial
  | answerKept | answerJoined => exact known
  | findStale stale | findJoinedStale stale =>
    rw [traced.fresh file known] at stale
    cases stale
  | forgetStale | forgetJoined => exact known.elim
  | join found | await found => exact traced.listedSince running found
  | @findJoined load loaded came =>
    obtain ⟨late, phase, here⟩ := known
    obtain ⟨other, finished⟩ := of_outcome? came
    cases here.symm.trans finished
    exact ⟨load, _, late, here, rfl⟩
  | list => exact ⟨traced.loadsGrow, .listed, loads_listLoad_last s path⟩
  | @answerWaiting load outcome came =>
    obtain ⟨late, phase, here⟩ := known
    obtain ⟨other, finished⟩ := of_outcome? came
    cases here.symm.trans finished
    cases outcome with
    | error => trivial
    | ok loaded => exact ⟨load, _, late, here, rfl⟩

end

section
variable (takes : first.Takes events s event next) (running : s.Running)
  (traced : Traced first path s) (calm : Calm first events path)
include takes traced calm

theorem Traced.loads_step {load : Load} (here : next.loads[number]? = some load)
    (its : plain load.path = plain path) :
    number < first.loads.length ∧ load.phase.isGoing = false ∨
      first.loads.length ≤ number ∧ load.path = path ∧
        ∀ outcome, load.phase.read? = some outcome →
          outcome = Loaded.read number first.files path := by
  rcases takes.step.listStep.load_before here with ⟨phase, before, going⟩ | ⟨new, _, _, call, caller⟩
  · rcases traced.loads number _ before its with ⟨early, ended⟩ | ⟨late, same, reads⟩
    · refine Or.inl ⟨early, Bool.eq_false_iff.2 ?_⟩
      intro now
      rw [going now] at ended
      cases ended
    · refine Or.inr ⟨late, same, ?_⟩
      intro outcome read
      rcases takes.step.load_cases here with ⟨earlier, old, alike⟩ | ⟨_, now⟩ | ⟨none, _⟩
      · cases old.symm.trans before
        exact reads outcome (alike.trans read)
      · dsimp only at same
        rw [← Option.some.inj (now.symm.trans read), same]
        exact Loaded.read_congr (calm.file s takes.passes) number
      · cases none.symm.trans before
  · have same : load.path = path := (traced.pending caller its rfl).2.1
    refine Or.inr ⟨new ▸ traced.loadsGrow, same, ?_⟩
    intro outcome read
    rcases takes.step.load_cases here with ⟨_, old, _⟩ | ⟨old, _⟩ | ⟨_, listed, _⟩
    · obtain ⟨bound, _⟩ := List.getElem?_eq_some_iff.1 old
      omega
    · obtain ⟨bound, _⟩ := List.getElem?_eq_some_iff.1 old
      omega
    · rw [listed] at read
      cases read

theorem Traced.kept_step {loaded : Loaded} (found : next.kept.lookup (plain path) = some loaded) :
    ReadSince first path next loaded := by
  cases takes.step.keptStep (plain path) with
  | stay same => exact (traced.kept loaded (same ▸ found)).step takes.step
  | forget => exact absurd takes.mem calm.kept
  | drop _ _ _ gone | pushOut gone => cases gone.symm.trans found
  | @put _ number other new here its now =>
    cases now.symm.trans found
    obtain ⟨late, rfl⟩ := traced.going here its rfl
    have since : ReadSince first other s loaded := ⟨number, _, late, here, rfl⟩
    exact since.step takes.step

include running

theorem Traced.calls_step {call : Call} (here : next.calls[number]? = some call)
    (its : plain call.path = plain path) :
    number < first.calls.length ∧ isOver call.phase = true ∨
      first.calls.length ≤ number ∧ call.path = path ∧ Known first path next call.phase := by
  rcases takes.step.call_cases here with old | ⟨phase, old, pending, went⟩ | ⟨none, began, start, _⟩
  · rcases traced.calls number call old its with ⟨early, ended⟩ | ⟨late, same, known⟩
    · exact Or.inl ⟨early, ended⟩
    · exact Or.inr ⟨late, same, known.step takes.step⟩
  · obtain ⟨late, same, known⟩ := traced.pending old its pending
    refine Or.inr ⟨late, same, ?_⟩
    dsimp only at same known
    rcases went with gone | ⟨base, own, rfl⟩
    · rw [gone]
      trivial
    · rw [same] at own ⊢
      exact traced.known_after running (calm.file s takes.passes) own known
  · have same := calm.spelled call.path (began ▸ takes.mem) its
    refine Or.inr ⟨traced.callsGrow.trans (List.getElem?_eq_none_iff.1 none), same, ?_⟩
    rw [start]
    trivial

theorem Traced.step : Traced first path next := by
  refine ⟨?_, ?_, ?_, ?_, ?_⟩
  · exact traced.callsGrow.trans takes.step.calls_length_le
  · exact traced.loadsGrow.trans takes.step.listStep.length_le
  · intro number call here its
    exact traced.calls_step takes running calm here its
  · intro number load here its
    exact traced.loads_step takes calm here its
  · intro loaded found
    exact traced.kept_step takes calm found

end

def ListedHere (path : String) (s : State) : Prop :=
  ∀ (number : Nat) (phase : LoadPhase), s.loads[number]? = some ⟨path, phase⟩ →
    phase.isGoing = true → (plain path, number) ∈ s.running

section
variable (passes : first.Passes events s) (running : first.Running)
  (rest : first.AtRest (plain path)) (calm : Calm first events path)
include passes running rest calm

theorem Passes.listedHere : ListedHere path s := by
  have forgets (n : Nat) : ¬ ForgottenAt first events n := by
    rintro ⟨_, _, takes, _⟩
    exact calm.running takes.mem
  have aside : StandAside first events (plain path) := by
    rintro s next older newer a b _ _ _ _ _ _ ⟨n, forgotten, _⟩
    exact forgets n forgotten
  have placed : Placed first events (plain path) s := by
    refine takes_induction (Placed first events (plain path)) ?_ ?_ passes
    · intro number load here its going
      rw [rest.loads number load here its] at going
      cases going
    · intro event s next takes placed
      exact placed.step (takes.passes.running_of running) takes aside
  intro number phase here going
  rcases placed number _ here rfl going with listed | ⟨n, forgotten, _⟩
  · exact listed
  · exact absurd forgotten (forgets n)

theorem Passes.traced : Traced first path s := by
  refine takes_induction (Traced first path) ?_ ?_ passes
  · refine ⟨Nat.le_refl _, Nat.le_refl _, ?_, ?_, ?_⟩
    · intro number call here its
      obtain ⟨bound, _⟩ := List.getElem?_eq_some_iff.1 here
      exact Or.inl ⟨bound, rest.calls number call here its⟩
    · intro number load here its
      obtain ⟨bound, _⟩ := List.getElem?_eq_some_iff.1 here
      exact Or.inl ⟨bound, rest.loads number load here its⟩
    · intro loaded found
      cases rest.kept.symm.trans found
  · intro event s next takes traced
    exact traced.step takes (takes.passes.running_of running) calm

end

theorem calm_of_one_path {capacity : Nat} {files : FileTree} (room : 0 < capacity)
    (only : ∀ other, .beginCall other ∈ events → other = path)
    (still : ∀ files, .changeFiles files ∉ events) (kept : .forgetKept ∉ events)
    (running : .forgetRunning ∉ events) : Calm (initial capacity files) events path := by
  refine ⟨?_, ?_, kept, running, ?_⟩
  · intro s passes
    rw [passes.files.resolve_right (still s.files)]
  · intro other began _
    exact only other began
  · intro s next number takes there
    cases takes.step with
    | @load _ its _ _ here step =>
      cases step with
      | read | keepNothing | finish => exact there
      | keep loaded =>
        have same : its = path := (takes.passes.paths (· = path) only).2 number _ here
        have roomHere : 0 < s.capacity := takes.passes.capacity_of ▸ room
        have found := Recent.lookup_put roomHere s.kept (plain path) loaded
        subst same
        exact Option.isSome_of_mem found

theorem atRest_initial (capacity : Nat) (files : FileTree) (key : String) :
    (initial capacity files).AtRest key := by
  refine ⟨rfl, ?_, ?_⟩
  · intro number load here
    cases here
  · intro number call here
    cases here

end DocSearch.Overlap.State
