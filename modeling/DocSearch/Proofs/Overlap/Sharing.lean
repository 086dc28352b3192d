import DocSearch.Proofs.Overlap.Since

/- Calls that share a load. While a file does not change and its index stays kept, the file is loaded
only once and every call is told of the one index, unless a load is taken off the list between the two
looks of a call: it has found nothing kept, and it finds nothing running. -/
namespace DocSearch.Overlap.State
open FileTree
variable {s next first : State} {event : Event} {events : List Event} {number : Nat} {path : String}

/-- When a load that has succeeded is taken off the list, no call for its path has found nothing kept
and has still to look for a running load. -/
def NoneBetween (first : State) (events : List Event) (path : String) : Prop :=
  ∀ (s next : State) (number : Nat) (load : Load) (loaded : Loaded),
    first.Takes events s (.advanceLoad number) next → s.loads[number]? = some load →
      plain load.path = plain path → load.phase = .hasKept (.ok loaded) →
        ∀ (c : Nat) (call : Call), s.calls[c]? = some call → plain call.path = plain path →
          call.phase ≠ .foundNone ∧ call.phase ≠ .needsLoad

/-- The path has one load at most since; what it has read stays kept; and once it is off the list, no
call looks for a running load any more. -/
structure OnlyOne (first : State) (path : String) (s : State) : Prop where
  one : ∀ m n, ListedSince first path s m → ListedSince first path s n → m = n
  kept : ∀ (number : Nat) (phase : LoadPhase) (loaded : Loaded), first.loads.length ≤ number →
    s.loads[number]? = some ⟨path, phase⟩ → phase.keptIndex? = some loaded →
      (s.kept.lookup (plain path)).isSome = true
  settled : ∀ (number : Nat) (phase : LoadPhase), first.loads.length ≤ number →
    s.loads[number]? = some ⟨path, phase⟩ → phase.isGoing = false →
      ∀ (c : Nat) (call : Call), s.calls[c]? = some call → plain call.path = plain path →
        call.phase ≠ .foundNone ∧ call.phase ≠ .needsLoad

def Readable (s : State) (path : String) : Prop :=
  ∃ loaded, Loaded.read 0 s.files path = .ok loaded

theorem Traced.succeeds (traced : Traced first path s) (readable : first.Readable path)
    (late : first.loads.length ≤ number) {phase : LoadPhase}
    (here : s.loads[number]? = some ⟨path, phase⟩) {outcome : Outcome}
    (read : phase.read? = some outcome) : ∃ loaded, outcome = .ok loaded := by
  obtain ⟨loaded, read0⟩ := readable
  have reads := (traced.loadSince here rfl late).2
  rw [reads outcome read, Loaded.read_renumbered number 0, read0]
  exact ⟨_, rfl⟩

section
variable (onlyOne : OnlyOne first path s) (running : s.Running) (listed : ListedHere path s)
include onlyOne running listed

theorem OnlyOne.not_listedSince {call : Nat} (caller : s.calls[call]? = some ⟨path, .needsLoad⟩)
    (idle : s.running.lookup (plain path) = none) : ¬ ListedSince first path s number := by
  rintro ⟨late, phase, here⟩
  cases going : phase.isGoing with
  | true =>
    rw [lookup_of_mem running.once (listed number phase here going)] at idle
    cases idle
  | false =>
    exact (onlyOne.settled number phase late here going call _ caller rfl).2 rfl

variable (step : Step s event next)
include step

theorem OnlyOne.one_step {m n : Nat} (since : ListedSince first path next m)
    (sinceToo : ListedSince first path next n) : m = n := by
  obtain ⟨lateM, phaseM, hereM⟩ := since
  obtain ⟨lateN, phaseN, hereN⟩ := sinceToo
  rcases step.listStep.load_before hereM with ⟨_, oldM, _⟩ | ⟨newM, idle, _, _, caller⟩
  · have before : ListedSince first path s m := ⟨lateM, _, oldM⟩
    rcases step.listStep.load_before hereN with ⟨_, oldN, _⟩ | ⟨_, idle, _, _, caller⟩
    · exact onlyOne.one m n before ⟨lateN, _, oldN⟩
    · exact absurd before (onlyOne.not_listedSince running listed caller idle)
  · rcases step.listStep.load_before hereN with ⟨_, oldN, _⟩ | ⟨newN, _⟩
    · exact absurd ⟨lateN, _, oldN⟩ (onlyOne.not_listedSince running listed caller idle)
    · exact newM.trans newN.symm

end

section
variable (takes : first.Takes events s event next) (traced : Traced first path s)
  (onlyOne : OnlyOne first path s)
include takes traced onlyOne

theorem OnlyOne.kept_step (calm : Calm first events path) (room : 0 < s.capacity)
    {phase : LoadPhase} {loaded : Loaded} (late : first.loads.length ≤ number) (here : next.loads[number]? = some ⟨path, phase⟩)
    (kept : phase.keptIndex? = some loaded) : (next.kept.lookup (plain path)).isSome = true := by
  rcases takes.step.kept_before room here kept with ⟨old, before, keptOld⟩ | now
  · have there := onlyOne.kept number old loaded late before keptOld
    cases takes.step.keptStep (plain path) with
    | stay same => rwa [same]
    | forget => exact absurd takes.mem calm.kept
    | @drop _ call other phase calling its stale =>
      rcases stale with rfl | rfl
      · exact (traced.pending calling its rfl).2.2.elim
      · exact (traced.pending calling its rfl).2.2.elim
    | pushOut => exact calm.room s next _ takes there
    | put _ _ now => rw [now]; rfl
  · rw [now]
    rfl

theorem OnlyOne.settled_step (readable : first.Readable path) (apart : NoneBetween first events path)
    {phase : LoadPhase} (late : first.loads.length ≤ number)
    (here : next.loads[number]? = some ⟨path, phase⟩) (ended : phase.isGoing = false) {c : Nat}
    {call : Call} (calling : next.calls[c]? = some call) (its : plain call.path = plain path) :
    call.phase ≠ .foundNone ∧ call.phase ≠ .needsLoad := by
  rcases takes.step.listStep.over_before here ended with
    ⟨before, old, ended⟩ | ⟨outcome, rfl, old, calls⟩
  · obtain ⟨loaded, kept⟩ : ∃ loaded, before.keptIndex? = some loaded := by
      cases before with
      | finished outcome =>
        obtain ⟨loaded, rfl⟩ := traced.succeeds readable late old rfl
        exact ⟨loaded, rfl⟩
      | _ => cases ended
    have there := onlyOne.kept number before loaded late old kept
    have settled := onlyOne.settled number before late old ended
    rcases takes.step.call_cases calling with same | ⟨earlier, was, pending, went⟩ | ⟨_, _, start, _⟩
    · exact settled c call same its
    · have wasSettled := settled c _ was its
      have known : Known first path s earlier := (traced.pending was its pending).2.2
      obtain ⟨other, after⟩ := call
      dsimp only at its wasSettled went ⊢
      rcases went with rfl | ⟨base, own, _⟩
      · simp
      · cases own with
        | findNone none =>
          rw [← its, none] at there
          cases there
        | forgetStale | forgetJoined => exact known.elim
        | findIdle => exact absurd rfl wasSettled.1
        | _ => simp
    · rw [start]
      simp
  · obtain ⟨loaded, rfl⟩ := traced.succeeds readable late old rfl
    exact apart s next number _ loaded takes old rfl rfl c call (calls ▸ calling) its

end

theorem Passes.onlyOne (passes : first.Passes events s) (running : first.Running)
    (rest : first.AtRest (plain path)) (calm : Calm first events path)
    (room : 0 < first.capacity) (readable : first.Readable path)
    (apart : NoneBetween first events path) : OnlyOne first path s := by
  refine takes_induction (OnlyOne first path) ?_ ?_ passes
  · have none {number : Nat} {load : Load} (late : first.loads.length ≤ number) :
        first.loads[number]? ≠ some load := by
      intro here
      obtain ⟨bound, _⟩ := List.getElem?_eq_some_iff.1 here
      omega
    refine ⟨?_, ?_, ?_⟩
    · rintro m n ⟨late, phase, here⟩
      exact absurd here (none late)
    · intro number phase loaded late here
      exact absurd here (none late)
    · intro number phase late here
      exact absurd here (none late)
  · intro event s next takes onlyOne
    have traced := takes.passes.traced running rest calm
    have runningHere := takes.passes.running_of running
    have listed := takes.passes.listedHere running rest calm
    refine ⟨?_, ?_, ?_⟩
    · intro m n since sinceToo
      exact onlyOne.one_step runningHere listed takes.step since sinceToo
    · intro number phase loaded late here kept
      exact onlyOne.kept_step takes traced calm (takes.passes.capacity_of ▸ room) late here kept
    · intro number phase late here ended c call calling its
      exact onlyOne.settled_step takes traced readable apart late here ended calling its

/-- Where a path is at rest, its file stays as it is and its index stays kept, and no load is taken off
the list between the two looks of a call: a load of the path that succeeds is the only one, and all
calls that are told of an index are told of the same one. -/
theorem calls_share_load {capacity : Nat} {files : FileTree} {before : List Event}
    (began : (initial capacity files).run? before = some first) (room : 0 < capacity)
    (rest : first.AtRest (plain path)) (calm : Calm first events path)
    (apart : NoneBetween first events path) (ran : first.run? events = some s) :
    (∀ (m n : Nat) (a b : Load) (loaded : Loaded), first.loads.length ≤ m →
      first.loads.length ≤ n → s.loads[m]? = some a → s.loads[n]? = some b →
        plain a.path = plain path → plain b.path = plain path →
          a.phase.read? = some (.ok loaded) → m = n) ∧
    ∀ (c d : Nat) (a b : Call) (loaded other : Loaded), first.calls.length ≤ c →
      first.calls.length ≤ d → s.calls[c]? = some a → s.calls[d]? = some b →
        plain a.path = plain path → plain b.path = plain path →
          a.phase = .answered (.ok loaded) → b.phase = .answered (.ok other) → loaded = other := by
  have passes := passes_last ran
  have running := (passes_last began).running
  have roomHere : 0 < first.capacity := (passes_last began).capacity_of ▸ room
  have traced := passes.traced running rest calm
  have single (m n : Nat) (loaded : Loaded) {phase : LoadPhase} (late : first.loads.length ≤ m)
      (here : s.loads[m]? = some ⟨path, phase⟩) (read : phase.read? = some (.ok loaded))
      (since : ListedSince first path s n) : m = n := by
    have readable : first.Readable path := by
      have done := ((traced.loadSince here rfl late).2 _ read).symm
      rw [Loaded.read_renumbered m 0] at done
      cases found : Loaded.read 0 first.files path with
      | error e =>
        rw [found] at done
        cases done
      | ok again => exact ⟨again, found⟩
    have onlyOne := passes.onlyOne running rest calm roomHere readable apart
    exact onlyOne.one m n ⟨late, phase, here⟩ since
  constructor
  · intro m n a b loaded lateM lateN hereM hereN itsM itsN read
    obtain ⟨its, phase⟩ := a
    obtain ⟨itsToo, phaseToo⟩ := b
    obtain ⟨rfl, _⟩ := traced.loadSince hereM itsM lateM
    obtain ⟨same, _⟩ := traced.loadSince hereN itsN lateN
    dsimp only at same
    subst same
    exact single m n loaded lateM hereM read ⟨lateN, _, hereN⟩
  · intro c d a b loaded other lateC lateD hereC hereD itsC itsD told toldToo
    have known {c : Nat} {a : Call} {loaded : Loaded} (late : first.calls.length ≤ c)
        (here : s.calls[c]? = some a) (its : plain a.path = plain path)
        (told : a.phase = .answered (.ok loaded)) : ReadSince first path s loaded := by
      have known := traced.callSince here its late
      rw [told] at known
      exact known
    obtain ⟨m, phase, lateM, hereM, read⟩ := known lateC hereC itsC told
    obtain ⟨n, phaseToo, lateN, hereN, readToo⟩ := known lateD hereD itsD toldToo
    cases single m n loaded lateM hereM read ⟨lateN, _, hereN⟩
    cases hereM.symm.trans hereN
    exact Except.ok.inj (Option.some.inj (read.symm.trans readToo))

def joinedCalls : List Event :=
  callAndList 0 ++ [.beginCall "/x.js", .advanceCall 1, .advanceCall 1]

def wholeLoad (load : Nat) : List Event := [.advanceLoad load, .advanceLoad load, .advanceLoad load]

theorem run_wholeLoad {loaded : Loaded} (here : s.loads[number]? = some ⟨path, .listed⟩)
    (read : Loaded.read number s.files path = .ok loaded) :
    s.run? (wholeLoad number) =
      some ({ s with
        kept := s.kept.put s.capacity (plain path) loaded
        running := s.running.filter (·.1 ≠ plain path) }.setLoad number path
          (.finished (.ok loaded))) := by
  obtain ⟨bound, itself⟩ := List.getElem?_eq_some_iff.1 here
  simp [wholeLoad, run?, step?, itself, advanceLoad, read, setLoad, bound]

def sharedLoad : List Event :=
  joinedCalls ++ (wholeLoad 0 ++ [.advanceCall 0, .advanceCall 1, .advanceCall 1])

def joinedState : State := ⟨1, onlyIndex, [], [(plain "/x.js", 0)],
  [⟨"/x.js", .waiting 0⟩, ⟨"/x.js", .joined 0⟩], [⟨"/x.js", .listed⟩]⟩

theorem run_joinedCalls : (initial 1 onlyIndex).run? joinedCalls = some joinedState := rfl

theorem noneBetween_sharedLoad : NoneBetween (initial 1 onlyIndex) sharedLoad "/x.js" := by
  intro s next number load loaded takes _ _ _ c call calling _
  rcases takes_append.1 takes with early | ⟨last, ran, takes⟩
  · exact absurd early.mem (by simp [joinedCalls, callAndList])
  · cases run_joinedCalls.symm.trans ran
    rcases takes_append.1 takes with loading | ⟨_, _, late⟩
    · have calls : s.calls = joinedState.calls := by
        refine passes_induction (·.calls = joinedState.calls) rfl ?_ loading.passes
        intro event member s next _ _ step same
        cases step with
        | load _ step => cases step <;> exact same
        | _ => simp [wholeLoad] at member
      have member := List.mem_of_getElem? (calls ▸ calling)
      simp only [joinedState, List.mem_cons, List.not_mem_nil, or_false] at member
      rcases member with rfl | rfl <;> simp
    · exact absurd late.mem (by simp)

theorem run_sharedLoad {loaded : Loaded} (read : Loaded.read 0 onlyIndex "/x.js" = .ok loaded) :
    (initial 1 onlyIndex).run? sharedLoad = some ⟨1, onlyIndex, [(plain "/x.js", loaded)], [],
      [⟨"/x.js", .answered (.ok loaded)⟩, ⟨"/x.js", .answered (.ok loaded)⟩],
      [⟨"/x.js", .finished (.ok loaded)⟩]⟩ := by
  have here : joinedState.loads[0]? = some ⟨"/x.js", .listed⟩ := rfl
  rw [sharedLoad, run?_append, run_joinedCalls, Option.bind_some, run?_append,
    run_wholeLoad here read, Option.bind_some]
  simp [run?, step?, advanceCall, setLoad, setCall, joinedState, Recent.put, Recent.forget, outcome?,
    Loaded.isFresh_of_read read]

theorem calls_share_load_joined : ∃ (s : State) (a b : Loaded),
    (initial 1 onlyIndex).run? sharedLoad = some s ∧
      s.calls[0]? = some ⟨"/x.js", .answered (.ok a)⟩ ∧
        s.calls[1]? = some ⟨"/x.js", .answered (.ok b)⟩ ∧ a = b := by
  obtain ⟨loaded, read⟩ := exists_read_onlyIndex 0
  have calm : Calm (initial 1 onlyIndex) sharedLoad "/x.js" := by
    apply calm_of_one_path Nat.zero_lt_one <;> simp [sharedLoad, joinedCalls, callAndList, wholeLoad]
  have ran := run_sharedLoad read
  have began : (initial 1 onlyIndex).run? [] = some (initial 1 onlyIndex) := rfl
  have shared := calls_share_load began Nat.zero_lt_one (atRest_initial 1 onlyIndex _) calm
    noneBetween_sharedLoad ran
  exact ⟨_, loaded, loaded, ran, rfl, rfl,
    shared.2 0 1 _ _ loaded loaded (Nat.zero_le _) (Nat.zero_le _) rfl rfl rfl rfl rfl rfl⟩

def bothFindNothing : List Event :=
  [.beginCall "/x.js", .advanceCall 0, .beginCall "/x.js", .advanceCall 1, .advanceCall 0,
    .advanceCall 0]

def bothFoundNothing : State := ⟨1, onlyIndex, [], [(plain "/x.js", 0)],
  [⟨"/x.js", .waiting 0⟩, ⟨"/x.js", .foundNone⟩], [⟨"/x.js", .listed⟩]⟩

def loadedTwice : List Event :=
  bothFindNothing ++ (wholeLoad 0 ++ ([.advanceCall 1, .advanceCall 1] ++
    (wholeLoad 1 ++ [.advanceCall 0, .advanceCall 1])))

theorem run_loadedTwice {a b : Loaded} (readA : Loaded.read 0 onlyIndex "/x.js" = .ok a)
    (readB : Loaded.read 1 onlyIndex "/x.js" = .ok b) :
    (initial 1 onlyIndex).run? loadedTwice = some ⟨1, onlyIndex, [(plain "/x.js", b)], [],
      [⟨"/x.js", .answered (.ok a)⟩, ⟨"/x.js", .answered (.ok b)⟩],
      [⟨"/x.js", .finished (.ok a)⟩, ⟨"/x.js", .finished (.ok b)⟩]⟩ := by
  let loadedOnce : State := ⟨1, onlyIndex, [(plain "/x.js", a)], [],
    [⟨"/x.js", .waiting 0⟩, ⟨"/x.js", .foundNone⟩], [⟨"/x.js", .finished (.ok a)⟩]⟩
  let listedAgain : State := ⟨1, onlyIndex, [(plain "/x.js", a)], [(plain "/x.js", 1)],
    [⟨"/x.js", .waiting 0⟩, ⟨"/x.js", .waiting 1⟩],
    [⟨"/x.js", .finished (.ok a)⟩, ⟨"/x.js", .listed⟩]⟩
  have found : (initial 1 onlyIndex).run? bothFindNothing = some bothFoundNothing := rfl
  have once : bothFoundNothing.run? (wholeLoad 0) = some loadedOnce :=
    run_wholeLoad (s := bothFoundNothing) rfl readA
  have listed : loadedOnce.run? [.advanceCall 1, .advanceCall 1] = some listedAgain := rfl
  have here : listedAgain.loads[1]? = some ⟨"/x.js", .listed⟩ := rfl
  rw [loadedTwice, run?_append, found, Option.bind_some, run?_append, once, Option.bind_some,
    run?_append, listed, Option.bind_some, run?_append, run_wholeLoad here readB]
  rfl

theorem late_call_loads_again : ∃ (s : State) (a b : Loaded),
    (initial 1 onlyIndex).AtRest (plain "/x.js") ∧ Calm (initial 1 onlyIndex) loadedTwice "/x.js" ∧
      (initial 1 onlyIndex).run? loadedTwice = some s ∧
        s.loads[0]? = some ⟨"/x.js", .finished (.ok a)⟩ ∧
          s.loads[1]? = some ⟨"/x.js", .finished (.ok b)⟩ ∧
            s.calls[0]? = some ⟨"/x.js", .answered (.ok a)⟩ ∧
              s.calls[1]? = some ⟨"/x.js", .answered (.ok b)⟩ ∧ a ≠ b := by
  obtain ⟨a, readA⟩ := exists_read_onlyIndex 0
  obtain ⟨b, readB⟩ := exists_read_onlyIndex 1
  have calm : Calm (initial 1 onlyIndex) loadedTwice "/x.js" := by
    apply calm_of_one_path Nat.zero_lt_one <;> simp [loadedTwice, bothFindNothing, wholeLoad]
  refine ⟨_, a, b, atRest_initial 1 onlyIndex _, calm,
    run_loadedTwice readA readB, rfl, rfl, rfl, rfl, ?_⟩
  rintro rfl
  have serial := (Loaded.read_eq_ok.1 readA).2.1
  rw [(Loaded.read_eq_ok.1 readB).2.1] at serial
  cases serial

end DocSearch.Overlap.State