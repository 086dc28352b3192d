import DocSearch.Store.Overlap
import Mathlib.Data.List.Induction

/- What an event can do to overlapping loads, and induction over the events of a run. -/
namespace DocSearch.Overlap
open FileTree

section
variable {α : Type} {l : List α} {m n : Nat} {a b : α}

theorem of_getElem?_set (here : (l.set n a)[m]? = some b) :
    m = n ∧ b = a ∨ m ≠ n ∧ l[m]? = some b := by
  by_cases same : m = n
  · subst same
    obtain ⟨bound, found⟩ := List.getElem?_eq_some_iff.1 here
    exact Or.inl ⟨rfl, found.symm.trans (List.getElem_set_self bound)⟩
  · exact Or.inr ⟨same, (List.getElem?_set_ne (Ne.symm same)).symm.trans here⟩

theorem of_getElem?_concat (here : (l ++ [a])[n]? = some b) :
    l[n]? = some b ∨ n = l.length ∧ b = a := by
  rcases Nat.lt_trichotomy n l.length with old | rfl | beyond
  · exact Or.inl ((List.getElem?_append_left old).symm.trans here)
  · exact Or.inr ⟨rfl, (Option.some.inj (List.getElem?_concat_length.symm.trans here)).symm⟩
  · obtain ⟨bound, _⟩ := List.getElem?_eq_some_iff.1 here
    simp at bound
    omega

end

namespace State
variable {s next : State} {number : Nat} {path : String}

@[simp] theorem setCall_running (s : State) (number : Nat) (path : String) (phase : CallPhase) :
    (s.setCall number path phase).running = s.running := rfl

@[simp] theorem setCall_loads (s : State) (number : Nat) (path : String) (phase : CallPhase) :
    (s.setCall number path phase).loads = s.loads := rfl

/-- The steps of a call: the state that they lead to, but for the phase of the call, and that. -/
inductive CallStep (s : State) (path : String) : CallPhase → State → CallPhase → Prop
  | findKept {loaded : Loaded} (found : s.kept.lookup (plain path) = some loaded) :
    CallStep s path .started { s with kept := s.kept.promote (plain path) } (.foundKept loaded)
  | findNone (none : s.kept.lookup (plain path) = none) : CallStep s path .started s .foundNone
  | answerKept {loaded : Loaded} (fresh : loaded.isFresh s.files = true) :
    CallStep s path (.foundKept loaded) s (.answered (.ok loaded))
  | findStale {loaded : Loaded} (stale : loaded.isFresh s.files = false) :
    CallStep s path (.foundKept loaded) s .foundStale
  | forgetStale :
    CallStep s path .foundStale { s with kept := s.kept.forget (plain path) } .foundNone
  | join {load : Nat} (running : s.running.lookup (plain path) = some load) :
    CallStep s path .foundNone s (.joined load)
  | findIdle (idle : s.running.lookup (plain path) = none) :
    CallStep s path .foundNone s .needsLoad
  | findJoined {load : Nat} {loaded : Loaded} (came : s.outcome? load = some (.ok loaded)) :
    CallStep s path (.joined load) s (.foundJoined loaded)
  | answerFailure {load : Nat} {e : LoadError} (came : s.outcome? load = some (.error e)) :
    CallStep s path (.joined load) s (.answered (.error e))
  | answerJoined {loaded : Loaded} (fresh : loaded.isFresh s.files = true) :
    CallStep s path (.foundJoined loaded) s (.answered (.ok loaded))
  | findJoinedStale {loaded : Loaded} (stale : loaded.isFresh s.files = false) :
    CallStep s path (.foundJoined loaded) s .foundJoinedStale
  | forgetJoined :
    CallStep s path .foundJoinedStale { s with kept := s.kept.forget (plain path) } .needsLoad
  | await {load : Nat} (running : s.running.lookup (plain path) = some load) :
    CallStep s path .needsLoad s (.waiting load)
  | list (idle : s.running.lookup (plain path) = none) :
    CallStep s path .needsLoad (s.listLoad path) (.waiting s.loads.length)
  | answerWaiting {load : Nat} {outcome : Outcome} (came : s.outcome? load = some outcome) :
    CallStep s path (.waiting load) s (.answered outcome)

theorem callStep_of_advance {phase : CallPhase}
    (advanced : s.advanceCall number path phase = some next) :
    ∃ base after, CallStep s path phase base after ∧ next = base.setCall number path after := by
  cases phase with
  | started =>
    rw [advanceCall] at advanced
    split at advanced <;> cases advanced
    · exact ⟨_, _, .findKept ‹_›, rfl⟩
    · exact ⟨_, _, .findNone ‹_›, rfl⟩
  | foundKept loaded =>
    rw [advanceCall] at advanced
    split at advanced <;> cases advanced
    · exact ⟨_, _, .answerKept ‹_›, rfl⟩
    · exact ⟨_, _, .findStale (Bool.eq_false_iff.2 ‹_›), rfl⟩
  | foundStale =>
    cases advanced
    exact ⟨_, _, .forgetStale, rfl⟩
  | foundNone =>
    rw [advanceCall] at advanced
    split at advanced <;> cases advanced
    · exact ⟨_, _, .join ‹_›, rfl⟩
    · exact ⟨_, _, .findIdle ‹_›, rfl⟩
  | joined load =>
    obtain ⟨e | loaded, came, rfl⟩ := Option.map_eq_some_iff.1 advanced
    · exact ⟨_, _, .answerFailure came, rfl⟩
    · exact ⟨_, _, .findJoined came, rfl⟩
  | foundJoined loaded =>
    rw [advanceCall] at advanced
    split at advanced <;> cases advanced
    · exact ⟨_, _, .answerJoined ‹_›, rfl⟩
    · exact ⟨_, _, .findJoinedStale (Bool.eq_false_iff.2 ‹_›), rfl⟩
  | foundJoinedStale =>
    cases advanced
    exact ⟨_, _, .forgetJoined, rfl⟩
  | needsLoad =>
    rw [advanceCall] at advanced
    split at advanced <;> cases advanced
    · exact ⟨_, _, .await ‹_›, rfl⟩
    · exact ⟨_, _, .list ‹_›, rfl⟩
  | waiting load =>
    obtain ⟨outcome, came, rfl⟩ := Option.map_eq_some_iff.1 advanced
    exact ⟨_, _, .answerWaiting came, rfl⟩
  | answered | abandoned => cases advanced

inductive LoadStep (s : State) (number : Nat) (path : String) : LoadPhase → State → Prop
  | read : LoadStep s number path .listed
      (s.setLoad number path (.hasRead (Loaded.read number s.files path)))
  | keep (loaded : Loaded) : LoadStep s number path (.hasRead (.ok loaded))
      ({ s with kept := s.kept.put s.capacity (plain path) loaded }.setLoad number path
        (.hasKept (.ok loaded)))
  | keepNothing (e : LoadError) : LoadStep s number path (.hasRead (.error e))
      (s.setLoad number path (.hasKept (.error e)))
  | finish (outcome : Outcome) : LoadStep s number path (.hasKept outcome)
      ({ s with running := s.running.filter (·.1 ≠ plain path) }.setLoad number path
        (.finished outcome))

theorem loadStep_of_advance {phase : LoadPhase}
    (advanced : s.advanceLoad number path phase = some next) :
    LoadStep s number path phase next := by
  cases phase with
  | listed => cases advanced; exact .read
  | hasRead outcome =>
    cases outcome <;> cases advanced
    · exact .keepNothing _
    · exact .keep _
  | hasKept outcome => cases advanced; exact .finish outcome
  | finished => cases advanced

inductive Step (s : State) : Event → State → Prop
  | change (files : FileTree) : Step s (.changeFiles files) { s with files }
  | «begin» (path : String) :
    Step s (.beginCall path) { s with calls := s.calls ++ [⟨path, .started⟩] }
  | call {number : Nat} {path : String} {phase after : CallPhase} {base : State}
    (here : s.calls[number]? = some ⟨path, phase⟩) (step : CallStep s path phase base after) :
    Step s (.advanceCall number) (base.setCall number path after)
  | abandon {number : Nat} {path : String} {phase : CallPhase}
    (here : s.calls[number]? = some ⟨path, phase⟩) (going : isOver phase = false) :
    Step s (.abandonCall number) (s.setCall number path .abandoned)
  | load {number : Nat} {path : String} {phase : LoadPhase} {next : State}
    (here : s.loads[number]? = some ⟨path, phase⟩) (step : LoadStep s number path phase next) :
    Step s (.advanceLoad number) next
  | forgetKept : Step s .forgetKept { s with kept := [] }
  | forgetRunning : Step s .forgetRunning { s with running := [] }

theorem step_of_step? {event : Event} (stepped : s.step? event = some next) : Step s event next := by
  cases event with
  | changeFiles files => cases stepped; exact .change files
  | beginCall path => cases stepped; exact .begin path
  | advanceCall number =>
    rw [step?] at stepped
    split at stepped
    · obtain ⟨base, after, step, rfl⟩ := callStep_of_advance stepped
      exact .call ‹_› step
    · cases stepped
  | abandonCall number =>
    rw [step?] at stepped
    split at stepped
    · split at stepped <;> cases stepped
      exact .abandon ‹_› (Bool.eq_false_iff.2 ‹_›)
    · cases stepped
  | advanceLoad number =>
    rw [step?] at stepped
    split at stepped
    · exact .load ‹_› (loadStep_of_advance stepped)
    · cases stepped
  | forgetKept => cases stepped; exact .forgetKept
  | forgetRunning => cases stepped; exact .forgetRunning

theorem Step.files {event : Event} (step : Step s event next) :
    next.files = s.files ∨ event = .changeFiles next.files := by
  cases step with
  | change => exact Or.inr rfl
  | call _ step => cases step <;> exact Or.inl rfl
  | load _ step => cases step <;> exact Or.inl rfl
  | _ => exact Or.inl rfl

theorem run?_append {first : State} {before after : List Event} :
    first.run? (before ++ after) = (first.run? before).bind (·.run? after) :=
  List.foldlM_append

/-- The state is one that the events pass through. -/
def Passes (first : State) (events : List Event) (s : State) : Prop :=
  ∃ before after, events = before ++ after ∧ first.run? before = some s

section
variable {first : State} {events : List Event}

theorem passes_last (ran : first.run? events = some s) : first.Passes events s :=
  ⟨events, [], (List.append_nil events).symm, ran⟩

theorem Passes.of_append {more : List Event} (passes : first.Passes (events ++ more) s) :
    first.Passes events s ∨ ∃ last, first.run? events = some last ∧ last.Passes more s := by
  obtain ⟨before, after, split, ran⟩ := passes
  rcases List.append_eq_append_iff.1 split with ⟨rest, rfl, rfl⟩ | ⟨rest, rfl, rfl⟩
  · rw [run?_append] at ran
    obtain ⟨last, ranLast, ran⟩ := Option.bind_eq_some_iff.1 ran
    exact Or.inr ⟨last, ranLast, rest, after, rfl, ran⟩
  · exact Or.inl ⟨before, rest, rfl, ran⟩

def Takes (first : State) (events : List Event) (s : State) (event : Event) (next : State) : Prop :=
  ∃ before after, events = before ++ event :: after ∧ first.run? before = some s ∧
    s.step? event = some next

section
variable {event : Event} (takes : first.Takes events s event next)
include takes

theorem Takes.step : Step s event next := by
  obtain ⟨_, _, _, _, stepped⟩ := takes
  exact step_of_step? stepped

theorem Takes.mem : event ∈ events := by
  obtain ⟨before, after, rfl, _⟩ := takes
  simp

theorem Takes.passes : first.Passes events s := by
  obtain ⟨before, after, split, ran, _⟩ := takes
  exact ⟨before, event :: after, split, ran⟩

theorem Takes.passes_next : first.Passes events next := by
  obtain ⟨before, after, split, ran, stepped⟩ := takes
  refine ⟨before ++ [event], after, ?_, ?_⟩
  · rw [split, List.append_assoc, List.singleton_append]
  · rw [run?_append, ran, Option.bind_some, run?, List.foldlM_cons, stepped]
    rfl

end

/-- What holds at first and is kept by every step taken holds of every state passed through. -/
theorem takes_induction (holds : State → Prop) (atFirst : holds first)
    (kept : ∀ event s next, first.Takes events s event next → holds s → holds next)
    (passes : first.Passes events s) : holds s := by
  obtain ⟨before, after, split, ran⟩ := passes
  induction before using List.reverseRecOn generalizing after s with
  | nil =>
    cases ran
    exact atFirst
  | append_singleton before event ih =>
    rw [run?_append] at ran
    obtain ⟨last, ranLast, stepped⟩ := Option.bind_eq_some_iff.1 ran
    obtain ⟨same, stepped, done⟩ := Option.bind_eq_some_iff.1 stepped
    cases done
    have split : events = before ++ event :: after := by
      rw [split, List.append_assoc, List.singleton_append]
    exact kept event last s ⟨before, after, split, ranLast, stepped⟩
      (ih (event :: after) split ranLast)

theorem passes_induction (holds : State → Prop) (atFirst : holds first)
    (kept : ∀ event ∈ events, ∀ s next, first.Passes events s → first.Passes events next →
      Step s event next → holds s → holds next) (passes : first.Passes events s) : holds s := by
  apply takes_induction holds atFirst _ passes
  intro event s next takes
  exact kept event takes.mem s next takes.passes takes.passes_next takes.step

theorem takes_append {event : Event} {more : List Event} :
    first.Takes (events ++ more) s event next ↔ first.Takes events s event next ∨
      ∃ last, first.run? events = some last ∧ last.Takes more s event next := by
  constructor
  · rintro ⟨before, after, split, ran, stepped⟩
    rcases List.append_eq_append_iff.1 split with ⟨rest, rfl, same⟩ | ⟨rest, rfl, same⟩
    · rw [run?_append] at ran
      obtain ⟨last, ranLast, ran⟩ := Option.bind_eq_some_iff.1 ran
      exact Or.inr ⟨last, ranLast, rest, after, same, ran, stepped⟩
    · cases rest with
      | nil =>
        rw [List.append_nil]
        exact Or.inr ⟨s, ran, [], after, same.symm, rfl, stepped⟩
      | cons head rest =>
        obtain ⟨rfl, rfl⟩ := List.cons.inj same
        exact Or.inl ⟨before, rest, rfl, ran, stepped⟩
  · rintro (⟨before, after, rfl, ran, stepped⟩ | ⟨last, ranLast, before, after, rfl, ran, stepped⟩)
    · exact ⟨before, after ++ more, by simp, ran, stepped⟩
    · refine ⟨events ++ before, after, by simp, ?_, stepped⟩
      rw [run?_append, ranLast]
      exact ran

theorem takes_cons {event head : Event} : first.Takes (head :: events) s event next ↔
    (s = first ∧ event = head ∧ first.step? head = some next) ∨
      ∃ second, first.step? head = some second ∧ second.Takes events s event next := by
  have single : first.Takes [head] s event next ↔
      s = first ∧ event = head ∧ first.step? head = some next := by
    constructor
    · rintro ⟨before, after, split, ran, stepped⟩
      obtain ⟨rfl, rfl, rfl⟩ : before = [] ∧ event = head ∧ after = [] := by
        cases before <;> simp_all
      cases ran
      exact ⟨rfl, rfl, stepped⟩
    · rintro ⟨rfl, rfl, stepped⟩
      exact ⟨[], [], rfl, rfl, stepped⟩
  have ran : first.run? [head] = first.step? head := by
    rw [run?, List.foldlM_cons]
    exact bind_pure _
  rw [← List.singleton_append, takes_append, single, ran]

theorem not_takes_nil {event : Event} : ¬ first.Takes [] s event next := by
  rintro ⟨before, after, split, _⟩
  simp at split

theorem Passes.files (passes : first.Passes events s) :
    s.files = first.files ∨ .changeFiles s.files ∈ events := by
  refine passes_induction (fun s => s.files = first.files ∨ .changeFiles s.files ∈ events)
    (Or.inl rfl) ?_ passes
  intro event member s next _ _ step files
  rcases step.files with same | rfl
  · rwa [same]
  · exact Or.inr member

end

end State
end DocSearch.Overlap
