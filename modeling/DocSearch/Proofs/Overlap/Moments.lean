import DocSearch.Proofs.Overlap.SingleFlight

/- When files are read. What a load reads and what is kept was in the file at some moment of the run,
and to a call that is pending a load's reading is of one of its moments or older than the call. -/
namespace DocSearch.Overlap
open FileTree

def LoadPhase.read? : LoadPhase → Option Outcome
  | .listed => none
  | .hasRead outcome | .hasKept outcome | .finished outcome => some outcome

def told (outcome : Outcome) : Except LoadError (String × Dialect × SearchIndex × Report) :=
  outcome.map fun loaded => (loaded.path, loaded.content)

theorem told_read (m n : Nat) (tree : FileTree) (path : String) :
    told (Loaded.read m tree path) = told (Loaded.read n tree path) := by
  rw [Loaded.read_renumbered m n]
  cases Loaded.read n tree path <;> rfl

theorem told_of_fresh {serial : Nat} {before now : FileTree} {path : String} {loaded : Loaded}
    (read : Loaded.read serial before path = .ok loaded) (trusted : loaded.Trusted now)
    (fresh : loaded.isFresh now = true) : told (.ok loaded) = told (Loaded.read 0 now path) := by
  obtain ⟨genuine, _, rfl, _⟩ := Loaded.read_eq_ok.1 read
  obtain ⟨file, found, same⟩ := Loaded.exists_file_of_fresh trusted fresh
  obtain ⟨again, done, itsPath, content⟩ := genuine.read same found 0
  rw [done, told, told, Except.map, Except.map, itsPath, content]

namespace State
variable {s next : State} {event : Event}

theorem of_outcome? {load : Nat} {outcome : Outcome} (came : s.outcome? load = some outcome) :
    ∃ path, s.loads[load]? = some ⟨path, .finished outcome⟩ := by
  unfold outcome? at came
  split at came
  · rename_i path same here
    cases came
    exact ⟨path, here⟩
  · cases came

def Pending (s : State) (number : Nat) : Prop :=
  ∃ call, s.calls[number]? = some call ∧ isOver call.phase = false

theorem Step.load_cases (step : Step s event next) {number : Nat} {load : Load}
    (here : next.loads[number]? = some load) :
    (∃ phase, s.loads[number]? = some ⟨load.path, phase⟩ ∧ phase.read? = load.phase.read?) ∨
      s.loads[number]? = some ⟨load.path, .listed⟩ ∧
        load.phase.read? = some (Loaded.read number s.files load.path) ∨
      s.loads[number]? = none ∧ load.phase = .listed ∧
        ∃ (call : Nat) (phase : CallPhase), s.calls[call]? = some ⟨load.path, phase⟩ := by
  have same (here : s.loads[number]? = some load) : ∃ phase,
      s.loads[number]? = some ⟨load.path, phase⟩ ∧ phase.read? = load.phase.read? := ⟨_, here, rfl⟩
  cases step with
  | change | «begin» | abandon | forgetKept | forgetRunning => exact Or.inl (same here)
  | call itself step =>
    rcases step.listed with ⟨_, loads⟩ | ⟨_, _, loads⟩
    · rw [setCall_loads, loads] at here
      exact Or.inl (same here)
    · rw [setCall_loads, loads] at here
      rcases loads_listLoad here with old | ⟨rfl, rfl⟩
      · exact Or.inl (same old)
      · exact Or.inr (Or.inr ⟨List.getElem?_eq_none (Nat.le_refl _), rfl, _, _, itself⟩)
  | load itself step =>
    cases step with
    | read =>
      rcases loads_setLoad here with ⟨rfl, rfl⟩ | ⟨_, old⟩
      · exact Or.inr (Or.inl ⟨itself, rfl⟩)
      · exact Or.inl (same old)
    | keep | keepNothing | finish =>
      rcases loads_setLoad here with ⟨rfl, rfl⟩ | ⟨_, old⟩
      · exact Or.inl ⟨_, itself, rfl⟩
      · exact Or.inl (same old)

theorem Step.load_stays (step : Step s event next) {load : Nat} {path : String} {phase : LoadPhase}
    (here : s.loads[load]? = some ⟨path, phase⟩) :
    ∃ phase, next.loads[load]? = some ⟨path, phase⟩ := by
  cases step with
  | change | «begin» | abandon | forgetKept | forgetRunning => exact ⟨phase, here⟩
  | call _ step =>
    rcases step.listed with ⟨_, loads⟩ | ⟨_, _, loads⟩
    · exact ⟨phase, loads ▸ here⟩
    · exact ⟨phase, loads ▸ loads_listLoad_of_some here _⟩
  | @load number other _ _ itself step =>
    by_cases same : load = number
    · subst same
      cases here.symm.trans itself
      cases step <;> exact ⟨_, loads_setLoad_self here path _⟩
    · have stays (after : LoadPhase) := (loads_setLoad_ne same other after).trans here
      cases step <;> exact ⟨_, stays _⟩

section
variable {base : State} {path : String} {phase after : CallPhase}
  (step : CallStep s path phase base after)
include step

theorem CallStep.going : isOver phase = false := by
  cases step <;> rfl

theorem CallStep.calls : base.calls = s.calls := by
  cases step <;> rfl

theorem CallStep.mem_kept {entry : String × Loaded} (member : entry ∈ base.kept) :
    entry ∈ s.kept := by
  cases step
  case findKept => exact Recent.mem_of_mem_promote member
  case forgetStale | forgetJoined => exact List.mem_of_mem_filter member
  all_goals exact member

end

theorem Step.call_cases (step : Step s event next) {number : Nat} {call : Call}
    (here : next.calls[number]? = some call) :
    s.calls[number]? = some call ∨
      (∃ phase, s.calls[number]? = some ⟨call.path, phase⟩ ∧ isOver phase = false ∧
        (call.phase = .abandoned ∨ ∃ base, CallStep s call.path phase base call.phase ∧
          next = base.setCall number call.path call.phase)) ∨
      s.calls[number]? = none ∧ event = .beginCall call.path ∧ call.phase = .started ∧
        next.loads = s.loads := by
  cases step with
  | change | forgetKept | forgetRunning => exact Or.inl here
  | load _ step => cases step <;> exact Or.inl here
  | «begin» path =>
    rcases of_getElem?_concat here with old | ⟨rfl, rfl⟩
    · exact Or.inl old
    · exact Or.inr (Or.inr ⟨List.getElem?_eq_none (Nat.le_refl _), rfl, rfl, rfl⟩)
  | abandon itself going =>
    rcases of_getElem?_set here with ⟨rfl, rfl⟩ | ⟨_, old⟩
    · exact Or.inr (Or.inl ⟨_, itself, going, Or.inl rfl⟩)
    · exact Or.inl old
  | call itself step =>
    rcases of_getElem?_set here with ⟨rfl, rfl⟩ | ⟨_, old⟩
    · exact Or.inr (Or.inl ⟨_, itself, step.going, Or.inr ⟨_, step, rfl⟩⟩)
    · exact Or.inl (step.calls ▸ old)

section
variable (first : State) (events : List Event)

def WasRead (path : String) (outcome : Outcome) : Prop :=
  ∃ (t : State) (serial : Nat), first.Passes events t ∧ Loaded.read serial t.files path = outcome

/-- Reading the file at some moment of the call would have told this. -/
def Current (number : Nat) (path : String) (outcome : Outcome) : Prop :=
  ∃ t : State, first.Passes events t ∧ t.Pending number ∧
    told outcome = told (Loaded.read 0 t.files path)

def ReadBefore (number load : Nat) (path : String) (outcome : Outcome) : Prop :=
  ∃ (t : State) (phase : LoadPhase), first.Passes events t ∧ t.calls[number]? = none ∧
    t.loads[load]? = some ⟨path, phase⟩ ∧ phase.read? = some outcome

def ReadDuring (s : State) (number load : Nat) (path : String) : Prop :=
  ∀ phase outcome, s.loads[load]? = some ⟨path, phase⟩ → phase.read? = some outcome →
    Current first events number path outcome

/-- Calls and loads name their paths in the plainest spelling. -/
structure PlainPaths (s : State) : Prop where
  calls : ∀ (number : Nat) (call : Call), s.calls[number]? = some call → plain call.path = call.path
  loads : ∀ (number : Nat) (load : Load), s.loads[number]? = some load → plain load.path = load.path

/-- Contents that stand at one path at whatever moments differ in size or time, or are the same. -/
def Dated : Prop :=
  ∀ s t, first.Passes events s → first.Passes events t → ∀ path before now,
    s.files.file path = .ok before → t.files.file path = .ok now →
      now.bytes.size = before.bytes.size → now.modified = before.modified → now.bytes = before.bytes

end

section
variable {capacity : Nat} {files : FileTree} {events : List Event} {number load : Nat}
  {path : String}

section
variable (passes : (initial capacity files).Passes events s)
include passes

theorem Passes.paths (allowed : String → Prop)
    (given : ∀ path, .beginCall path ∈ events → allowed path) :
    (∀ (number : Nat) (call : Call), s.calls[number]? = some call → allowed call.path) ∧
      ∀ (number : Nat) (load : Load), s.loads[number]? = some load → allowed load.path := by
  refine passes_induction (fun s =>
    (∀ (number : Nat) (call : Call), s.calls[number]? = some call → allowed call.path) ∧
      ∀ (number : Nat) (load : Load), s.loads[number]? = some load → allowed load.path)
    ⟨fun _ _ found => (by cases found), fun _ _ found => (by cases found)⟩ ?_ passes
  rintro event member s next _ _ step ⟨calls, loads⟩
  constructor
  · intro number call here
    rcases step.call_cases here with old | ⟨phase, old, _⟩ | ⟨_, rfl, _⟩
    · exact calls number call old
    · exact calls number ⟨call.path, phase⟩ old
    · exact given call.path member
  · intro number load here
    rcases step.load_cases here with ⟨phase, old, _⟩ | ⟨old, _⟩ | ⟨_, _, caller, phase, call⟩
    · exact loads number ⟨load.path, phase⟩ old
    · exact loads number ⟨load.path, .listed⟩ old
    · exact calls caller ⟨load.path, phase⟩ call

theorem Passes.plainPaths (given : ∀ path, .beginCall path ∈ events → plain path = path) :
    s.PlainPaths := by
  obtain ⟨calls, loads⟩ := passes.paths (fun path => plain path = path) given
  exact ⟨calls, loads⟩

theorem Passes.wasRead {phase : LoadPhase} {outcome : Outcome}
    (here : s.loads[number]? = some ⟨path, phase⟩) (read : phase.read? = some outcome) :
    WasRead (initial capacity files) events path outcome := by
  refine passes_induction (fun s => ∀ (number : Nat) (load : Load), s.loads[number]? = some load →
    ∀ outcome, load.phase.read? = some outcome →
      WasRead (initial capacity files) events load.path outcome)
    (fun _ _ found => by cases found) ?_ passes number ⟨path, phase⟩ here outcome read
  intro event _ s next before _ step all number load here outcome read
  rcases step.load_cases here with ⟨phase, old, same⟩ | ⟨_, reads⟩ | ⟨_, new, _⟩
  · exact all number ⟨load.path, phase⟩ old outcome (same.trans read)
  · exact ⟨s, number, before, Option.some.inj (reads.symm.trans read)⟩
  · rw [new] at read
    cases read

theorem Passes.wasRead_kept (given : ∀ path, .beginCall path ∈ events → plain path = path)
    {entry : String × Loaded} (member : entry ∈ s.kept) :
    WasRead (initial capacity files) events entry.1 (.ok entry.2) := by
  refine passes_induction (fun s => ∀ entry ∈ s.kept,
    WasRead (initial capacity files) events entry.1 (.ok entry.2))
    (fun _ member => by cases member) ?_ passes entry member
  intro event _ s next before _ step all entry member
  cases step with
  | change | «begin» | abandon | forgetRunning => exact all entry member
  | forgetKept => cases member
  | call _ step => exact all entry (step.mem_kept member)
  | @load number path _ _ here step =>
    cases step with
    | read | keepNothing | finish => exact all entry member
    | keep loaded =>
      rcases Recent.mem_put member with rfl | old
      · have same := (before.plainPaths given).loads number ⟨path, .hasRead (.ok loaded)⟩ here
        dsimp only at same
        rw [same]
        exact before.wasRead here rfl
      · exact all entry old

end

theorem current_of_fresh {first : State} {loaded : Loaded} (dated : Dated first events)
    (read : WasRead first events path (.ok loaded)) (passes : first.Passes events s)
    (pending : s.Pending number) (fresh : loaded.isFresh s.files = true) :
    Current first events number path (.ok loaded) := by
  obtain ⟨t, serial, passed, read⟩ := read
  obtain ⟨_, _, rfl, there⟩ := Loaded.read_eq_ok.1 read
  exact ⟨s, passes, pending, told_of_fresh read
    (fun now found size time => dated t s passed passes _ _ now there found size time) fresh⟩

theorem current_of_read {first : State} (passes : first.Passes events s)
    (pending : s.Pending number) (serial : Nat) (path : String) :
    Current first events number path (Loaded.read serial s.files path) :=
  ⟨s, passes, pending, told_read serial 0 s.files path⟩

theorem ReadDuring.step {first : State} (during : ReadDuring first events s number load path)
    (passes : first.Passes events s) (pending : s.Pending number) (step : Step s event next) :
    ReadDuring first events next number load path := by
  intro phase outcome here read
  rcases step.load_cases here with ⟨before, old, same⟩ | ⟨_, reads⟩ | ⟨_, new, _⟩
  · exact during before outcome old (same.trans read)
  · rw [← Option.some.inj (reads.symm.trans read)]
    exact current_of_read passes pending load path
  · cases new
    cases read

theorem Passes.during_or_before (passes : (initial capacity files).Passes events s)
    {going : CallPhase} (here : s.calls[number]? = some ⟨path, going⟩) (pending : isOver going = false)
    {phase : LoadPhase} (there : s.loads[load]? = some ⟨path, phase⟩) {outcome : Outcome}
    (read : phase.read? = some outcome) : Current (initial capacity files) events number path outcome ∨
      ReadBefore (initial capacity files) events number load path outcome := by
  refine passes_induction (fun s => ∀ (call : Call), s.calls[number]? = some call →
    isOver call.phase = false → ∀ phase outcome, s.loads[load]? = some ⟨call.path, phase⟩ →
      phase.read? = some outcome →
        Current (initial capacity files) events number call.path outcome ∨
          ReadBefore (initial capacity files) events number load call.path outcome)
    (fun _ found => by cases found) ?_ passes ⟨path, going⟩ here pending phase outcome there read
  intro event _ s next before _ step all call here pending phase outcome there read
  -- A call that was pending has the load's reading among its moments, or had it before.
  have carry (going : CallPhase) (old : s.calls[number]? = some ⟨call.path, going⟩)
      (pending : isOver going = false) :
      Current (initial capacity files) events number call.path outcome ∨
        ReadBefore (initial capacity files) events number load call.path outcome := by
    rcases step.load_cases there with ⟨earlier, was, same⟩ | ⟨_, reads⟩ | ⟨_, new, _⟩
    · exact all ⟨call.path, going⟩ old pending earlier outcome was (same.trans read)
    · rw [← Option.some.inj (reads.symm.trans read)]
      exact Or.inl (current_of_read before ⟨_, old, pending⟩ load call.path)
    · cases new
      cases read
  rcases step.call_cases here with old | ⟨going, old, going, _⟩ | ⟨new, _, _, loads⟩
  · exact carry call.phase old pending
  · exact carry _ old going
  · exact Or.inr ⟨s, phase, before, new, loads ▸ there, read⟩

end

end State
end DocSearch.Overlap
