import DocSearch.Proofs.Overlap.SingleFlight
import DocSearch.Proofs.Store.Recency

/- A call that is served while nothing else happens. It can go on to an answer, which is that of a store
that keeps the same indexes; what is kept afterwards is what that store keeps, and no load is left under
way. -/
namespace DocSearch.Overlap.State
open FileTree

variable {first s next : State} {path : String} {event : Event} {events : List Event}
  {outcome : Outcome}

structure Idle (s : State) : Prop where
  running : s.running = []
  ended : ∀ (number : Nat) (load : Load), s.loads[number]? = some load → load.phase.isGoing = false

/-- The events of a call alone: its own steps and those of loads. -/
def OfCall (number : Nat) (event : Event) : Prop :=
  event = .advanceCall number ∨ ∃ load, event = .advanceLoad load

/-- A call for the path begins and goes on alone to this state. -/
def Alone (first : State) (path : String) (s : State) : Prop :=
  ∃ events, (∀ event ∈ events, OfCall first.calls.length event) ∧
    first.run? (.beginCall path :: events) = some s

def serving (first : State) (path : String) (kept : Recent Loaded) (running : List (String × Nat))
    (loads : List Load) (phase : CallPhase) : State :=
  { first with kept, running, loads, calls := first.calls ++ [⟨path, phase⟩] }

def keptWith (first : State) (path : String) : Outcome → Recent Loaded
  | .ok loaded => first.kept.put first.capacity (plain path) loaded
  | .error _ => first.kept.forget (plain path)

def NoneFresh (first : State) (path : String) : Prop :=
  ∀ old, first.kept.lookup (plain path) = some old → old.isFresh first.files = false

/-- How far a call alone can have come. -/
inductive Stage (first : State) (path : String) : State → Prop
  | started : Stage first path (first.serving path first.kept [] first.loads .started)
  | foundKept {loaded : Loaded} (found : first.kept.lookup (plain path) = some loaded) :
    Stage first path
      (first.serving path (first.kept.promote (plain path)) [] first.loads (.foundKept loaded))
  | answeredKept {loaded : Loaded} (found : first.kept.lookup (plain path) = some loaded)
    (fresh : loaded.isFresh first.files = true) :
    Stage first path (first.serving path (first.kept.promote (plain path)) [] first.loads
      (.answered (.ok loaded)))
  | foundStale (stale : first.NoneFresh path) : Stage first path
      (first.serving path (first.kept.promote (plain path)) [] first.loads .foundStale)
  | foundNone (stale : first.NoneFresh path) : Stage first path
      (first.serving path (first.kept.forget (plain path)) [] first.loads .foundNone)
  | needsLoad (stale : first.NoneFresh path) : Stage first path
      (first.serving path (first.kept.forget (plain path)) [] first.loads .needsLoad)
  | listed (stale : first.NoneFresh path) : Stage first path
      (first.serving path (first.kept.forget (plain path)) [(plain path, first.loads.length)]
        (first.loads ++ [⟨path, .listed⟩]) (.waiting first.loads.length))
  | hasRead {outcome : Outcome} (stale : first.NoneFresh path)
    (read : Loaded.read first.loads.length first.files path = outcome) : Stage first path
      (first.serving path (first.kept.forget (plain path)) [(plain path, first.loads.length)]
        (first.loads ++ [⟨path, .hasRead outcome⟩]) (.waiting first.loads.length))
  | hasKept {outcome : Outcome} (stale : first.NoneFresh path)
    (read : Loaded.read first.loads.length first.files path = outcome) : Stage first path
      (first.serving path (first.keptWith path outcome) [(plain path, first.loads.length)]
        (first.loads ++ [⟨path, .hasKept outcome⟩]) (.waiting first.loads.length))
  | finished {outcome : Outcome} (stale : first.NoneFresh path)
    (read : Loaded.read first.loads.length first.files path = outcome) : Stage first path
      (first.serving path (first.keptWith path outcome) []
        (first.loads ++ [⟨path, .finished outcome⟩]) (.waiting first.loads.length))
  | answered {outcome : Outcome} (stale : first.NoneFresh path)
    (read : Loaded.read first.loads.length first.files path = outcome) : Stage first path
      (first.serving path (first.keptWith path outcome) []
        (first.loads ++ [⟨path, .finished outcome⟩]) (.answered outcome))

section
variable {kept : Recent Loaded} {running : List (String × Nat)} {loads : List Load}
  {phase : CallPhase}

theorem serving_call (first : State) (path : String) (kept : Recent Loaded)
    (running : List (String × Nat)) (loads : List Load) (phase : CallPhase) :
    (first.serving path kept running loads phase).calls[first.calls.length]? = some ⟨path, phase⟩ :=
  List.getElem?_concat_length

theorem serving_load (first : State) (path : String) (kept : Recent Loaded)
    (running : List (String × Nat)) (load : Load) (phase : CallPhase) :
    (first.serving path kept running (first.loads ++ [load]) phase).loads[first.loads.length]? =
      some load :=
  List.getElem?_concat_length

theorem Stage.setCall {after : CallPhase}
    (stage : Stage first path (first.serving path kept running loads after)) :
    Stage first path
      ((first.serving path kept running loads phase).setCall first.calls.length path after) := by
  simpa [serving, State.setCall] using stage

theorem Stage.setLoad {old : Load} {after : LoadPhase}
    (stage : Stage first path
      (first.serving path kept running (first.loads ++ [⟨path, after⟩]) phase)) :
    Stage first path ((first.serving path kept running (first.loads ++ [old]) phase).setLoad
      first.loads.length path after) := by
  simpa [serving, State.setLoad] using stage

theorem step_serving (step : Step (first.serving path kept running loads phase) event next)
    (ofCall : OfCall first.calls.length event) :
    (∃ base after, CallStep (first.serving path kept running loads phase) path phase base after ∧
      next = base.setCall first.calls.length path after) ∨
    ∃ number load, loads[number]? = some load ∧
      LoadStep (first.serving path kept running loads phase) number load.path load.phase next := by
  rcases ofCall with rfl | ⟨number, rfl⟩
  · cases step with
    | call here step =>
      cases (serving_call first path kept running loads phase).symm.trans here
      exact Or.inl ⟨_, _, step, rfl⟩
  · cases step with
    | load here step => exact Or.inr ⟨number, _, here, step⟩

end

theorem LoadStep.going {number : Nat} {phase : LoadPhase}
    (step : LoadStep s number path phase next) : phase.isGoing = true := by
  cases step <;> rfl

namespace Idle
variable (idle : first.Idle)
include idle

theorem concat {outcome : Outcome} {number : Nat} {load : Load}
    (here : (first.loads ++ [⟨path, .finished outcome⟩])[number]? = some load) :
    load.phase.isGoing = false := by
  rcases of_getElem?_concat here with old | ⟨_, rfl⟩
  · exact idle.ended number load old
  · rfl

variable {kept : Recent Loaded} {running : List (String × Nat)} {phase : CallPhase}

theorem not_loadStep {number : Nat} {load : Load} (here : first.loads[number]? = some load) :
    ¬ LoadStep s number load.path load.phase next := by
  intro step
  cases (idle.ended number load here).symm.trans step.going

theorem step_unlisted (step : Step (first.serving path kept running first.loads phase) event next)
    (ofCall : OfCall first.calls.length event) :
    ∃ base after, CallStep (first.serving path kept running first.loads phase) path phase base after ∧
      next = base.setCall first.calls.length path after := by
  rcases step_serving step ofCall with moved | ⟨number, load, here, moved⟩
  · exact moved
  · exact absurd moved (idle.not_loadStep here)

theorem step_listed {load : LoadPhase}
    (step : Step (first.serving path kept running (first.loads ++ [⟨path, load⟩]) phase) event next)
    (ofCall : OfCall first.calls.length event) :
    (∃ base after, CallStep (first.serving path kept running (first.loads ++ [⟨path, load⟩]) phase)
      path phase base after ∧ next = base.setCall first.calls.length path after) ∨
    LoadStep (first.serving path kept running (first.loads ++ [⟨path, load⟩]) phase)
      first.loads.length path load next := by
  rcases step_serving step ofCall with moved | ⟨number, other, here, moved⟩
  · exact Or.inl moved
  · rcases of_getElem?_concat here with old | ⟨rfl, rfl⟩
    · exact absurd moved (idle.not_loadStep old)
    · exact Or.inr moved

end Idle

theorem outcome?_serving {kept : Recent Loaded} {running : List (String × Nat)} {phase : CallPhase}
    {load : LoadPhase} (came : (first.serving path kept running (first.loads ++ [⟨path, load⟩])
      phase).outcome? first.loads.length = some outcome) : load = .finished outcome := by
  rw [outcome?, serving_load] at came
  cases load <;> simp_all

theorem Stage.step (stage : Stage first path s) (idle : first.Idle) (step : Step s event next)
    (ofCall : OfCall first.calls.length event) : Stage first path next := by
  cases stage with
  | started =>
    obtain ⟨_, _, moved, rfl⟩ := idle.step_unlisted step ofCall
    cases moved with
    | findKept found => exact Stage.setCall (.foundKept found)
    | findNone absent =>
      have stale : first.NoneFresh path := fun old found => by cases absent.symm.trans found
      have same : first.kept.forget (plain path) = first.kept :=
        Recent.forget_of_new (Recent.not_mem_of_lookup absent)
      have stage := Stage.foundNone stale
      rw [same] at stage
      exact stage.setCall
  | foundKept found =>
    obtain ⟨_, _, moved, rfl⟩ := idle.step_unlisted step ofCall
    cases moved with
    | answerKept fresh => exact Stage.setCall (.answeredKept found fresh)
    | findStale stale =>
      refine Stage.setCall (.foundStale fun old same => ?_)
      cases found.symm.trans same
      exact stale
  | answeredKept =>
    obtain ⟨_, _, moved, _⟩ := idle.step_unlisted step ofCall
    cases moved
  | foundStale stale =>
    obtain ⟨_, _, moved, rfl⟩ := idle.step_unlisted step ofCall
    cases moved with
    | forgetStale =>
      have stage := Stage.foundNone stale
      rw [← Recent.forget_promote] at stage
      exact stage.setCall
  | foundNone stale =>
    obtain ⟨_, _, moved, rfl⟩ := idle.step_unlisted step ofCall
    cases moved with
    | join running => cases running
    | findIdle => exact Stage.setCall (.needsLoad stale)
  | needsLoad stale =>
    obtain ⟨_, _, moved, rfl⟩ := idle.step_unlisted step ofCall
    cases moved with
    | await running => cases running
    | list => exact Stage.setCall (.listed stale)
  | listed stale =>
    rcases idle.step_listed step ofCall with ⟨_, _, moved, rfl⟩ | moved
    · cases moved with
      | answerWaiting came => cases outcome?_serving came
    · cases moved with
      | read => exact Stage.setLoad (.hasRead stale rfl)
  | hasRead stale read =>
    rcases idle.step_listed step ofCall with ⟨_, _, moved, rfl⟩ | moved
    · cases moved with
      | answerWaiting came => cases outcome?_serving came
    · cases moved with
      | keep loaded =>
        have stage := Stage.hasKept stale read
        rw [keptWith, ← Recent.put_forget] at stage
        exact stage.setLoad
      | keepNothing e => exact Stage.setLoad (.hasKept stale read)
  | hasKept stale read =>
    rcases idle.step_listed step ofCall with ⟨_, _, moved, rfl⟩ | moved
    · cases moved with
      | answerWaiting came => cases outcome?_serving came
    · cases moved with
      | finish =>
        have none : [(plain path, first.loads.length)].filter (·.1 ≠ plain path) = [] := by simp
        have stage := Stage.finished stale read
        rw [← none] at stage
        exact stage.setLoad
  | finished stale read =>
    rcases idle.step_listed step ofCall with ⟨_, _, moved, rfl⟩ | moved
    · cases moved with
      | answerWaiting came =>
        cases outcome?_serving came
        exact Stage.setCall (.answered stale read)
    · cases moved
  | answered =>
    rcases idle.step_listed step ofCall with ⟨_, _, moved, _⟩ | moved
    · cases moved
    · cases moved

theorem stage_of_alone (idle : first.Idle) (alone : first.Alone path s) : Stage first path s := by
  obtain ⟨events, ofCall, ran⟩ := alone
  rw [run?, List.foldlM_cons] at ran
  obtain ⟨begun, first_step, ran⟩ := Option.bind_eq_some_iff.1 ran
  have opening : begun = first.serving path first.kept [] first.loads .started := by
    rw [← Option.some.inj first_step, serving, ← idle.running]
  refine passes_induction (Stage first path) (opening ▸ .started) ?_ (passes_last ran)
  intro event member _ _ _ _ step stage
  exact stage.step idle step (ofCall event member)

/-- A call alone is answered like a question to the store, and then nothing is under way. -/
theorem Alone.fetched (alone : first.Alone path s) (idle : first.Idle) (active : Option String)
    (answered : s.answer? first.calls.length = some outcome) :
    s.Idle ∧ ∃ after, Store.Fetched ⟨first.capacity, first.kept, active, first.loads.length⟩
      first.files path outcome after ∧ after.cached = s.kept := by
  have last {kept : Recent Loaded} {running : List (String × Nat)} {loads : List Load}
      {phase : CallPhase} (answered : (first.serving path kept running loads phase).answer?
        first.calls.length = some outcome) : phase = .answered outcome := by
    rw [answer?, serving_call] at answered
    cases phase <;> simp_all
  cases stage_of_alone idle alone with
  | answeredKept found fresh =>
    cases last answered
    exact ⟨⟨rfl, idle.ended⟩, _, .kept found fresh, rfl⟩
  | @answered outcome stale read =>
    cases last answered
    refine ⟨⟨rfl, fun _ _ => idle.concat⟩, ?_⟩
    cases outcome with
    | ok loaded => exact ⟨_, .read stale read, rfl⟩
    | error e => exact ⟨_, .unread stale read, rfl⟩
  | _ => cases last answered

def Answerable (number : Nat) (s : State) : Prop :=
  ∃ events, (∀ event ∈ events, OfCall number event) ∧
    ∃ last outcome, s.run? events = some last ∧ last.answer? number = some outcome

section
variable {number : Nat}

theorem Answerable.of_answer (answered : s.answer? number = some outcome) : s.Answerable number :=
  ⟨[], fun _ member => (by cases member), s, outcome, rfl, answered⟩

theorem Answerable.of_step (answerable : next.Answerable number) (ofCall : OfCall number event)
    (stepped : s.step? event = some next) : s.Answerable number := by
  obtain ⟨events, allOfCall, last, outcome, ran, answered⟩ := answerable
  refine ⟨event :: events, List.forall_mem_cons.2 ⟨ofCall, allOfCall⟩, last, outcome, ?_, answered⟩
  rw [run?, List.foldlM_cons, stepped]
  exact ran

end

section
variable {kept : Recent Loaded} {running : List (String × Nat)}

theorem Answerable.of_advanceCall {loads : List Load} {phase : CallPhase}
    (answerable : next.Answerable first.calls.length)
    (advanced : (first.serving path kept running loads phase).advanceCall first.calls.length path
      phase = some next) :
    (first.serving path kept running loads phase).Answerable first.calls.length := by
  refine answerable.of_step (Or.inl rfl) ?_
  rw [step?, serving_call]
  exact advanced

theorem Answerable.of_advanceLoad {phase : LoadPhase}
    (answerable : next.Answerable first.calls.length)
    (advanced : (first.serving path kept running (first.loads ++ [⟨path, phase⟩])
      (.waiting first.loads.length)).advanceLoad first.loads.length path phase = some next) :
    (first.serving path kept running (first.loads ++ [⟨path, phase⟩])
      (.waiting first.loads.length)).Answerable first.calls.length := by
  refine answerable.of_step (Or.inr ⟨first.loads.length, rfl⟩) ?_
  rw [step?, serving_load]
  exact advanced

variable (first path kept)

theorem answerable_answered (running : List (String × Nat)) (loads : List Load) (outcome : Outcome) :
    (first.serving path kept running loads (.answered outcome)).Answerable first.calls.length := by
  have answered : (first.serving path kept running loads (.answered outcome)).answer?
      first.calls.length = some outcome := by
    rw [answer?, serving_call]
  exact .of_answer answered

theorem answerable_hasRead (running : List (String × Nat)) (outcome : Outcome) :
    (first.serving path kept running (first.loads ++ [⟨path, .hasRead outcome⟩])
      (.waiting first.loads.length)).Answerable first.calls.length := by
  have finished (kept : Recent Loaded) (running : List (String × Nat)) :
      (first.serving path kept running (first.loads ++ [⟨path, .finished outcome⟩])
        (.waiting first.loads.length)).Answerable first.calls.length := by
    refine .of_advanceCall (answerable_answered first path kept running
      (first.loads ++ [⟨path, .finished outcome⟩]) outcome) ?_
    simp [advanceCall, outcome?, serving, setCall]
  have hasKept (kept : Recent Loaded) :
      (first.serving path kept running (first.loads ++ [⟨path, .hasKept outcome⟩])
        (.waiting first.loads.length)).Answerable first.calls.length := by
    refine .of_advanceLoad (finished kept (running.filter (·.1 ≠ plain path))) ?_
    simp [advanceLoad, serving, setLoad]
  cases outcome with
  | ok loaded =>
    refine .of_advanceLoad (hasKept (kept.put first.capacity (plain path) loaded)) ?_
    simp [advanceLoad, serving, setLoad]
  | error e =>
    refine .of_advanceLoad (hasKept kept) ?_
    simp [advanceLoad, serving, setLoad]

theorem answerable_foundNone :
    (first.serving path kept [] first.loads .foundNone).Answerable first.calls.length := by
  have listed : (first.serving path kept [(plain path, first.loads.length)]
      (first.loads ++ [⟨path, .listed⟩]) (.waiting first.loads.length)).Answerable
        first.calls.length := by
    refine .of_advanceLoad (answerable_hasRead first path kept [(plain path, first.loads.length)]
      (Loaded.read first.loads.length first.files path)) ?_
    simp [advanceLoad, serving, setLoad]
  have needsLoad :
      (first.serving path kept [] first.loads .needsLoad).Answerable first.calls.length := by
    refine .of_advanceCall listed ?_
    simp [advanceCall, listLoad, serving, setCall]
  refine .of_advanceCall needsLoad ?_
  simp [advanceCall, serving, setCall]

theorem answerable_started :
    (first.serving path kept [] first.loads .started).Answerable first.calls.length := by
  have foundNone := answerable_foundNone first path
  cases found : kept.lookup (plain path) with
  | none =>
    refine .of_advanceCall (foundNone kept) ?_
    simp [advanceCall, found, serving, setCall]
  | some loaded =>
    have foundKept (kept : Recent Loaded) :
        (first.serving path kept [] first.loads (.foundKept loaded)).Answerable
          first.calls.length := by
      cases fresh : loaded.isFresh first.files with
      | true =>
        refine .of_advanceCall (answerable_answered first path kept [] first.loads (.ok loaded)) ?_
        simp [advanceCall, fresh, serving, setCall]
      | false =>
        have foundStale :
            (first.serving path kept [] first.loads .foundStale).Answerable first.calls.length := by
          refine .of_advanceCall (foundNone (kept.forget (plain path))) ?_
          simp [advanceCall, serving, setCall]
        refine .of_advanceCall foundStale ?_
        simp [advanceCall, fresh, serving, setCall]
    refine .of_advanceCall (foundKept (kept.promote (plain path))) ?_
    simp [advanceCall, found, serving, setCall]

end

theorem Idle.exists_alone (idle : first.Idle) (path : String) :
    ∃ s outcome, first.Alone path s ∧ s.answer? first.calls.length = some outcome := by
  obtain ⟨events, ofCall, last, outcome, ran, answered⟩ :=
    answerable_started first path first.kept
  refine ⟨last, outcome, ⟨events, ofCall, ?_⟩, answered⟩
  rw [run?, List.foldlM_cons]
  rw [serving, ← idle.running] at ran
  exact ran

end DocSearch.Overlap.State
