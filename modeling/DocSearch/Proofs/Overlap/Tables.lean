import DocSearch.Proofs.Overlap.Moments

/- What a step does to the list of running loads and to the kept indexes, and that an index is kept
under the path and the number of the load that has read it. -/
namespace DocSearch.Overlap
open FileTree

def LoadPhase.isDue : LoadPhase → Bool
  | .hasRead (.ok _) | .hasKept _ => true
  | _ => false

namespace State
variable {s next : State} {event : Event} {number : Nat} {path key : String}

/-- The steps, as far as the loads under way and the list of the running ones are concerned. -/
inductive ListStep (s : State) : Event → State → Prop
  | stay {event : Event} {next : State} (running : next.running = s.running)
    (length : next.loads.length = s.loads.length)
    (before : ∀ (number : Nat) (load : Load), next.loads[number]? = some load →
      ∃ phase, s.loads[number]? = some ⟨load.path, phase⟩ ∧
        phase.isGoing = load.phase.isGoing) : ListStep s event next
  | list {event : Event} {next : State} {call : Nat} (path : String)
    (caller : s.calls[call]? = some ⟨path, .needsLoad⟩) (idle : s.running.lookup (plain path) = none)
    (running : next.running = (plain path, s.loads.length) :: s.running)
    (loads : next.loads = s.loads ++ [⟨path, .listed⟩]) : ListStep s event next
  | finish {next : State} (number : Nat) (path : String) (outcome : Outcome)
    (here : s.loads[number]? = some ⟨path, .hasKept outcome⟩)
    (running : next.running = s.running.filter (·.1 ≠ plain path))
    (loads : next.loads = s.loads.set number ⟨path, .finished outcome⟩)
    (calls : next.calls = s.calls) : ListStep s (.advanceLoad number) next
  | forget {next : State} (running : next.running = []) (loads : next.loads = s.loads) :
    ListStep s .forgetRunning next

theorem ListStep.of_same (running : next.running = s.running) (loads : next.loads = s.loads) :
    ListStep s event next := by
  refine .stay running (by rw [loads]) ?_
  intro number load here
  exact ⟨load.phase, loads ▸ here, rfl⟩

theorem ListStep.of_setLoad {old phase : LoadPhase}
    (here : s.loads[number]? = some ⟨path, old⟩) (going : old.isGoing = true)
    (running : next.running = s.running) (loads : next.loads = (s.setLoad number path phase).loads)
    (after : phase.isGoing = true) : ListStep s event next := by
  refine .stay running ?_ ?_
  · rw [loads]
    exact List.length_set
  · intro other load there
    rw [loads] at there
    rcases loads_setLoad there with ⟨rfl, rfl⟩ | ⟨_, before⟩
    · exact ⟨old, here, going.trans after.symm⟩
    · exact ⟨load.phase, before, rfl⟩

theorem Step.listStep (step : Step s event next) : ListStep s event next := by
  cases step with
  | change | «begin» | abandon | forgetKept => exact .of_same rfl rfl
  | forgetRunning => exact .forget rfl rfl
  | call here step =>
    cases step
    case list idle => exact .list _ here idle rfl rfl
    all_goals exact .of_same rfl rfl
  | load here step =>
    cases step with
    | read | keep | keepNothing => exact .of_setLoad here rfl rfl rfl rfl
    | finish outcome => exact .finish _ _ outcome here rfl rfl rfl

theorem ListStep.load_before (step : ListStep s event next) {load : Load}
    (here : next.loads[number]? = some load) :
    (∃ phase, s.loads[number]? = some ⟨load.path, phase⟩ ∧
      (load.phase.isGoing = true → phase.isGoing = true)) ∨
    number = s.loads.length ∧ s.running.lookup (plain load.path) = none ∧
      next.running = (plain load.path, number) :: s.running ∧
        ∃ call : Nat, s.calls[call]? = some ⟨load.path, .needsLoad⟩ := by
  cases step with
  | stay _ _ before =>
    obtain ⟨phase, old, same⟩ := before number load here
    exact Or.inl ⟨phase, old, fun going => same.trans going⟩
  | list path caller idle running loads =>
    rw [loads] at here
    rcases of_getElem?_concat here with old | ⟨rfl, rfl⟩
    · exact Or.inl ⟨load.phase, old, id⟩
    · exact Or.inr ⟨rfl, idle, running, _, caller⟩
  | finish other path outcome there _ loads _ =>
    rw [loads] at here
    rcases of_getElem?_set here with ⟨rfl, rfl⟩ | ⟨_, old⟩
    · exact Or.inl ⟨.hasKept outcome, there, fun _ => rfl⟩
    · exact Or.inl ⟨load.phase, old, id⟩
  | forget _ loads => exact Or.inl ⟨load.phase, loads ▸ here, id⟩

theorem ListStep.over_before (step : ListStep s event next) {load : Load}
    (here : next.loads[number]? = some load) (ended : load.phase.isGoing = false) :
    (∃ phase, s.loads[number]? = some ⟨load.path, phase⟩ ∧ phase.isGoing = false) ∨
      ∃ outcome, event = .advanceLoad number ∧
        s.loads[number]? = some ⟨load.path, .hasKept outcome⟩ ∧ next.calls = s.calls := by
  cases step with
  | stay _ _ before =>
    obtain ⟨phase, old, same⟩ := before number load here
    exact Or.inl ⟨phase, old, same.trans ended⟩
  | list path _ _ _ loads =>
    rw [loads] at here
    rcases of_getElem?_concat here with old | ⟨rfl, rfl⟩
    · exact Or.inl ⟨load.phase, old, ended⟩
    · cases ended
  | finish other path outcome there _ loads calls =>
    rw [loads] at here
    rcases of_getElem?_set here with ⟨rfl, rfl⟩ | ⟨_, old⟩
    · exact Or.inr ⟨outcome, rfl, there, calls⟩
    · exact Or.inl ⟨load.phase, old, ended⟩
  | forget _ loads => exact Or.inl ⟨load.phase, loads ▸ here, ended⟩

theorem ListStep.length_le (step : ListStep s event next) : s.loads.length ≤ next.loads.length := by
  cases step with
  | stay _ length => exact Nat.le_of_eq length.symm
  | list _ _ _ _ loads => simp [loads]
  | finish _ _ _ _ _ loads _ => simp [loads]
  | forget _ loads => simp [loads]

theorem Step.calls_length_le (step : Step s event next) : s.calls.length ≤ next.calls.length := by
  cases step with
  | change | forgetKept | forgetRunning => exact Nat.le_refl _
  | «begin» => simp
  | abandon => simp [setCall]
  | call _ step => simp [setCall, step.calls]
  | load _ step => cases step <;> exact Nat.le_refl _

inductive KeptStep (s : State) (key : String) : Event → State → Prop
  | stay {event : Event} {next : State} (same : next.kept.lookup key = s.kept.lookup key) :
    KeptStep s key event next
  | forget {next : State} (gone : next.kept.lookup key = none) : KeptStep s key .forgetKept next
  | drop {next : State} {number : Nat} {path : String} {phase : CallPhase}
    (here : s.calls[number]? = some ⟨path, phase⟩) (its : plain path = key)
    (stale : phase = .foundStale ∨ phase = .foundJoinedStale)
    (gone : next.kept.lookup key = none) : KeptStep s key (.advanceCall number) next
  | pushOut {next : State} {number : Nat} (gone : next.kept.lookup key = none) :
    KeptStep s key (.advanceLoad number) next
  | put {next : State} {number : Nat} {path : String} {loaded : Loaded}
    (here : s.loads[number]? = some ⟨path, .hasRead (.ok loaded)⟩) (its : plain path = key)
    (now : next.kept.lookup key = some loaded) : KeptStep s key (.advanceLoad number) next

theorem Step.keptStep (step : Step s event next) (key : String) : KeptStep s key event next := by
  cases step with
  | change | «begin» | abandon | forgetRunning => exact .stay rfl
  | forgetKept => exact .forget rfl
  | @call number path phase _ _ here step =>
    have forgotten (stale : phase = .foundStale ∨ phase = .foundJoinedStale) (after : CallPhase) :
        KeptStep s key (.advanceCall number)
          ({ s with kept := s.kept.forget (plain path) }.setCall number path after) := by
      have left := Recent.lookup_forget s.kept (plain path) key
      by_cases its : plain path = key
      · exact .drop here its stale (left.trans (if_pos its.symm))
      · exact .stay (left.trans (if_neg (Ne.symm its)))
    cases step
    case findKept => exact .stay (Recent.lookup_promote s.kept (plain path) key)
    case forgetStale => exact forgotten (Or.inl rfl) _
    case forgetJoined => exact forgotten (Or.inr rfl) _
    all_goals exact .stay rfl
  | @load number path _ _ here step =>
    cases step with
    | read | keepNothing | finish => exact .stay rfl
    | keep loaded =>
      by_cases its : plain path = key
      · subst its
        rcases Nat.eq_zero_or_pos s.capacity with none | room
        · apply KeptStep.pushOut
          show (s.kept.put s.capacity (plain path) loaded).lookup (plain path) = Option.none
          rw [none]
          rfl
        · exact .put here rfl (Recent.lookup_put room s.kept (plain path) loaded)
      · rcases Recent.lookup_put_other s.capacity (Ne.symm its) s.kept loaded with
          gone | same
        · exact .pushOut gone
        · exact .stay same

theorem Step.kept_before (step : Step s event next) (room : 0 < s.capacity) {phase : LoadPhase}
    {loaded : Loaded} (here : next.loads[number]? = some ⟨path, phase⟩)
    (kept : phase.keptIndex? = some loaded) :
    (∃ old, s.loads[number]? = some ⟨path, old⟩ ∧ old.keptIndex? = some loaded) ∨
      next.kept.lookup (plain path) = some loaded := by
  cases step with
  | change | «begin» | abandon | forgetKept | forgetRunning => exact Or.inl ⟨phase, here, kept⟩
  | call _ step =>
    rcases step.listed with ⟨_, loads⟩ | ⟨_, _, loads⟩
    · exact Or.inl ⟨phase, loads ▸ here, kept⟩
    · rw [setCall_loads, loads] at here
      rcases loads_listLoad here with old | ⟨_, same⟩
      · exact Or.inl ⟨phase, old, kept⟩
      · cases same
        cases kept
  | load itself step =>
    cases step with
    | read =>
      rcases loads_setLoad here with ⟨_, same⟩ | ⟨_, old⟩
      · cases same
        cases kept
      · exact Or.inl ⟨phase, old, kept⟩
    | keep index =>
      rcases loads_setLoad here with ⟨_, same⟩ | ⟨_, old⟩
      · cases same
        cases kept
        exact Or.inr (Recent.lookup_put room s.kept _ loaded)
      · exact Or.inl ⟨phase, old, kept⟩
    | keepNothing =>
      rcases loads_setLoad here with ⟨_, same⟩ | ⟨_, old⟩
      · cases same
        cases kept
      · exact Or.inl ⟨phase, old, kept⟩
    | finish outcome =>
      rcases loads_setLoad here with ⟨rfl, same⟩ | ⟨_, old⟩
      · cases same
        refine Or.inl ⟨_, itself, ?_⟩
        cases outcome <;> exact kept
      · exact Or.inl ⟨phase, old, kept⟩

theorem Step.read_stays (step : Step s event next) {phase : LoadPhase} {outcome : Outcome}
    (here : s.loads[number]? = some ⟨path, phase⟩) (read : phase.read? = some outcome) :
    ∃ phase, next.loads[number]? = some ⟨path, phase⟩ ∧ phase.read? = some outcome := by
  obtain ⟨after, there⟩ := step.load_stays here
  refine ⟨after, there, ?_⟩
  rcases step.load_cases there with ⟨before, old, same⟩ | ⟨old, _⟩ | ⟨new, _⟩
  · cases old.symm.trans here
    exact same.symm.trans read
  · cases old.symm.trans here
    cases read
  · cases new.symm.trans here

def HasRead (s : State) (number : Nat) (key : String) (outcome : Outcome) : Prop :=
  ∃ load, s.loads[number]? = some load ∧ plain load.path = key ∧ load.phase.read? = some outcome

theorem Step.hasRead (step : Step s event next) {outcome : Outcome}
    (read : s.HasRead number key outcome) : next.HasRead number key outcome := by
  obtain ⟨⟨path, phase⟩, here, its, read⟩ := read
  obtain ⟨after, there, same⟩ := step.read_stays here read
  exact ⟨⟨path, after⟩, there, its, same⟩

structure Numbered (s : State) : Prop where
  read : ∀ (number : Nat) (load : Load) (loaded : Loaded), s.loads[number]? = some load →
    load.phase.read? = some (.ok loaded) → loaded.serial = number
  kept : ∀ key loaded, s.kept.lookup key = some loaded → s.HasRead loaded.serial key (.ok loaded)

theorem Numbered.step (numbered : s.Numbered) (step : Step s event next) : next.Numbered := by
  constructor
  · intro number load loaded here read
    rcases step.load_cases here with ⟨phase, old, same⟩ | ⟨_, reads⟩ | ⟨_, new, _⟩
    · exact numbered.read number ⟨load.path, phase⟩ loaded old (same.trans read)
    · have now := Option.some.inj (reads.symm.trans read)
      exact (Loaded.read_eq_ok.1 now).2.1
    · rw [new] at read
      cases read
  · intro key loaded found
    cases step.keptStep key with
    | stay same => exact step.hasRead (numbered.kept key loaded (same ▸ found))
    | forget gone | drop _ _ _ gone | pushOut gone => cases gone.symm.trans found
    | @put _ number path new here its now =>
      cases now.symm.trans found
      have same := numbered.read number ⟨path, .hasRead (.ok loaded)⟩ loaded here rfl
      rw [same]
      exact step.hasRead ⟨⟨path, .hasRead (.ok loaded)⟩, here, its, rfl⟩

theorem Passes.numbered {capacity : Nat} {files : FileTree} {events : List Event}
    (passes : (initial capacity files).Passes events s) : s.Numbered := by
  have atFirst : (initial capacity files).Numbered := by
    constructor
    · intro number load loaded found
      cases found
    · intro key loaded found
      cases found
  exact passes_induction Numbered atFirst (fun _ _ _ _ _ _ step all => all.step step) passes

end State
end DocSearch.Overlap
