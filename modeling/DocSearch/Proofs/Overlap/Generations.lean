import DocSearch.Proofs.Overlap.Tables

/- Loads that outlive the forgetting of everything. Forgetting stops no load, and a load acts on the
tables by its path alone. So a load from before may take a newer one off the list and put its own
index in place of the newer one's, but nothing else disturbs the newer load. -/
namespace DocSearch.Overlap.State
open FileTree
variable {s next first : State} {event : Event} {events : List Event} {path key : String}

section
variable (first : State) (events : List Event)

/-- The list of running loads was forgotten when so many loads had been listed. -/
def ForgottenAt (loads : Nat) : Prop :=
  ∃ s next : State, first.Takes events s .forgetRunning next ∧ s.loads.length = loads

def Parted (older newer : Nat) : Prop := ∃ n, ForgottenAt first events n ∧ older < n ∧ n ≤ newer

/-- Once a newer load of the path is listed, a load from before the forgetting neither keeps its index
nor is taken off the list. -/
def StandAside (key : String) : Prop :=
  ∀ (s next : State) (older newer : Nat) (a b : Load),
    first.Takes events s (.advanceLoad older) next → s.loads[older]? = some a →
      s.loads[newer]? = some b → plain a.path = key → plain b.path = key →
        a.phase.isDue = true → ¬ Parted first events older newer

/-- A load of the path that is under way is listed, or the list was forgotten behind it and before
whatever is listed now. -/
def Placed (key : String) (s : State) : Prop :=
  ∀ (older : Nat) (a : Load), s.loads[older]? = some a → plain a.path = key →
    a.phase.isGoing = true → (key, older) ∈ s.running ∨
      ∃ n, ForgottenAt first events n ∧ older < n ∧ n ≤ s.loads.length ∧
        ∀ newer, (key, newer) ∈ s.running → n ≤ newer

def InTurn (key : String) (s : State) : Prop :=
  ∀ (older newer : Nat) (a b : Load), s.loads[older]? = some a → s.loads[newer]? = some b →
    plain a.path = key → plain b.path = key → a.phase.isGoing = true → older < newer →
      Parted first events older newer

end

section
variable (running : s.Running) (takes : first.Takes events s event next)
include running

theorem InTurn.step (inTurn : InTurn first events key s) (placed : Placed first events key s)
    (step : ListStep s event next) : InTurn first events key next := by
  intro older newer a b here there itsA itsB going after
  rcases step.load_before here with ⟨phaseA, beforeA, goingA⟩ | ⟨newA, _⟩
  · rcases step.load_before there with ⟨phaseB, beforeB, _⟩ | ⟨newB, idle, _⟩
    · exact inTurn older newer _ _ beforeA beforeB itsA itsB (goingA going) after
    · rcases placed older _ beforeA itsA (goingA going) with listed | ⟨n, forgotten, old, few, _⟩
      · rw [itsB, lookup_of_mem running.once listed] at idle
        cases idle
      · exact ⟨n, forgotten, old, newB ▸ few⟩
  · rcases step.load_before there with ⟨_, beforeB, _⟩ | ⟨newB, _⟩
    · obtain ⟨bound, _⟩ := List.getElem?_eq_some_iff.1 beforeB
      omega
    · omega

include takes

theorem Placed.step (placed : Placed first events key s) (aside : StandAside first events key) :
    Placed first events key next := by
  intro older a here its going
  have step := takes.step.listStep
  rcases step.load_before here with ⟨phase, before, goingBefore⟩ | ⟨_, _, listed, _⟩
  · have place := placed older _ before its (goingBefore going)
    cases step with
    | stay same length => rwa [same, length]
    | list path _ idle listed loads =>
      rw [listed, loads, List.length_append]
      rcases place with old | ⟨n, forgotten, less, few, above⟩
      · exact Or.inl (List.mem_cons_of_mem _ old)
      · refine Or.inr ⟨n, forgotten, less, by simp; omega, ?_⟩
        intro newer member
        rcases List.mem_cons.1 member with same | old
        · cases same
          exact few
        · exact above newer old
    | finish number path outcome there listed loads =>
      rw [listed, loads, List.length_set]
      rcases place with old | ⟨n, forgotten, less, few, above⟩
      · by_cases same : plain path = key
        · -- Taken off is what is listed for the path: the load itself, which is over, or a newer one.
          rcases placed number _ there same rfl with own | ⟨n, forgotten, less, _, above⟩
          · have one := lookup_of_mem running.once own
            rw [lookup_of_mem running.once old] at one
            cases one
            obtain ⟨bound, _⟩ := List.getElem?_eq_some_iff.1 there
            rw [loads, List.getElem?_set_self bound] at here
            cases here
            cases going
          · exact absurd ⟨n, forgotten, less, above older old⟩
              (aside s next number older _ _ takes there before same its rfl)
        · exact Or.inl (List.mem_filter.2 ⟨old, decide_eq_true (Ne.symm same)⟩)
      · refine Or.inr ⟨n, forgotten, less, few, ?_⟩
        intro newer member
        exact above newer (List.mem_filter.1 member).1
    | forget listed loads =>
      obtain ⟨bound, _⟩ := List.getElem?_eq_some_iff.1 before
      refine Or.inr ⟨s.loads.length, ⟨s, next, takes, rfl⟩, bound, by rw [loads], ?_⟩
      intro newer member
      rw [listed] at member
      cases member
  · rw [listed, its]
    exact Or.inl List.mem_cons_self

end

section
variable {capacity : Nat} {files : FileTree} (passes : (initial capacity files).Passes events s)
  (aside : StandAside (initial capacity files) events key)
include passes aside

theorem Passes.placed : Placed (initial capacity files) events key s := by
  refine takes_induction (Placed (initial capacity files) events key) ?_ ?_ passes
  · intro older a found
    cases found
  · intro event s next takes placed
    exact placed.step takes.passes.running takes aside

theorem Passes.inTurn : InTurn (initial capacity files) events key s := by
  refine takes_induction (InTurn (initial capacity files) events key) ?_ ?_ passes
  · intro older newer a b found
    cases found
  · intro event s next takes inTurn
    exact inTurn.step takes.passes.running (takes.passes.placed aside) takes.step.listStep

end

section
variable {capacity : Nat} {files : FileTree} {number : Nat}
  (takes : (initial capacity files).Takes events s event next)
  (aside : StandAside (initial capacity files) events key)
include takes aside

theorem Takes.removed_by (listed : (key, number) ∈ s.running) (gone : (key, number) ∉ next.running) :
    event = .forgetRunning ∨ event = .advanceLoad number := by
  have running := takes.passes.running
  cases takes.step.listStep with
  | stay same => exact absurd (same ▸ listed) gone
  | list path _ idle same => exact absurd (same ▸ List.mem_cons_of_mem _ listed) gone
  | forget => exact Or.inl rfl
  | finish other path outcome there same =>
    have itsKey : plain path = key := by
      by_contra differs
      rw [same] at gone
      exact gone (List.mem_filter.2 ⟨listed, decide_eq_true (Ne.symm differs)⟩)
    rcases takes.passes.placed aside other _ there itsKey rfl with own | ⟨n, forgotten, less, _, above⟩
    · have one := lookup_of_mem running.once own
      rw [lookup_of_mem running.once listed] at one
      cases one
      exact Or.inr rfl
    · obtain ⟨load, here, its, _⟩ := running.going key number listed
      exact absurd ⟨n, forgotten, less, above number listed⟩
        (aside s next other number _ load takes there here itsKey its rfl)

theorem Takes.serial_le {old new : Loaded} (before : s.kept.lookup key = some old)
    (after : next.kept.lookup key = some new) : old.serial ≤ new.serial := by
  have numbered := takes.passes.numbered
  cases takes.step.keptStep key with
  | stay same =>
    rw [same, before] at after
    cases after
    exact Nat.le_refl _
  | forget gone | drop _ _ _ gone | pushOut gone => cases gone.symm.trans after
  | @put _ number path loaded here its now =>
    cases now.symm.trans after
    obtain ⟨load, there, same, _⟩ := numbered.kept key old before
    rw [numbered.read number ⟨path, .hasRead (.ok new)⟩ new here rfl]
    by_contra newer
    have parted := takes.passes.inTurn aside number old.serial _ load here there its same rfl (by omega)
    exact aside s next number old.serial _ load takes here there its same rfl parted

end

/-- As long as the loads of a path stand aside for newer ones, a load is taken off the list only by
itself or when the list is forgotten, its index is replaced by that of a newer load only, and the path
is listed as running while a load of it is under way that was listed since the list was forgotten. -/
theorem newer_loads_undisturbed {capacity : Nat} {files : FileTree}
    (ran : (initial capacity files).run? events = some s)
    (aside : StandAside (initial capacity files) events (plain path)) :
    (∀ (t u : State) (event : Event) (number : Nat),
      (initial capacity files).Takes events t event u → (plain path, number) ∈ t.running →
        (plain path, number) ∉ u.running → event = .forgetRunning ∨ event = .advanceLoad number) ∧
    (∀ (t u : State) (event : Event) (old new : Loaded),
      (initial capacity files).Takes events t event u → t.kept.lookup (plain path) = some old →
        u.kept.lookup (plain path) = some new → old.serial ≤ new.serial) ∧
    ∀ (number : Nat) (load : Load), s.loads[number]? = some load → plain load.path = plain path →
      s.isUnfinished number = true →
        (∀ n, ForgottenAt (initial capacity files) events n → n ≤ number) →
          s.isRunning path = true := by
  refine ⟨?_, ?_, ?_⟩
  · intro t u event number takes listed gone
    exact takes.removed_by aside listed gone
  · intro t u event old new takes before after
    exact takes.serial_le aside before after
  · intro number load here its unfinished since
    have passes := passes_last ran
    obtain ⟨same, found, going⟩ := isUnfinished_iff.1 unfinished
    cases here.symm.trans found
    rcases passes.placed aside number load here its going with listed | ⟨n, forgotten, less, _⟩
    · rw [isRunning, lookup_of_mem passes.running.once listed]
      rfl
    · have := since n forgotten
      omega

def callAndList (call : Nat) : List Event :=
  [.beginCall "/x.js", .advanceCall call, .advanceCall call, .advanceCall call]

def twoGenerations : List Event :=
  callAndList 0 ++ [.forgetKept] ++ .forgetRunning :: callAndList 1

def twoListed : State := ⟨1, onlyIndex, [], [(plain "/x.js", 1)],
  [⟨"/x.js", .waiting 0⟩, ⟨"/x.js", .waiting 1⟩], [⟨"/x.js", .listed⟩, ⟨"/x.js", .listed⟩]⟩

theorem run_twoGenerations : (initial 1 onlyIndex).run? twoGenerations = some twoListed := rfl

theorem forgottenAt_twoGenerations {more : List Event} (keeps : .forgetRunning ∉ more) {n : Nat}
    (forgotten : ForgottenAt (initial 1 onlyIndex) (twoGenerations ++ more) n) : n = 1 := by
  obtain ⟨s, next, takes, length⟩ := forgotten
  rw [twoGenerations, List.append_assoc, takes_append, List.cons_append] at takes
  rcases takes with early | ⟨last, ran, late⟩
  · exact absurd early.mem (by simp [callAndList])
  · cases ran
    rcases takes_cons.1 late with ⟨rfl, _, _⟩ | ⟨_, _, later⟩
    · exact length.symm
    · exact absurd later.mem (by simp [callAndList, keeps])

theorem newer_loads_undisturbed_two_generations : ∃ s : State,
    (initial 1 onlyIndex).run? (twoGenerations ++ [.advanceLoad 1]) = some s ∧
      StandAside (initial 1 onlyIndex) (twoGenerations ++ [.advanceLoad 1]) (plain "/x.js") ∧
        s.isUnfinished 1 = true ∧ s.isRunning "/x.js" = true := by
  have aside : StandAside (initial 1 onlyIndex) (twoGenerations ++ [.advanceLoad 1])
      (plain "/x.js") := by
    intro s next older newer a b takes here _ _ _ due
    rcases takes_append.1 takes with early | ⟨last, ran, late⟩
    · exact absurd early.mem (by simp [twoGenerations, callAndList])
    · cases run_twoGenerations.symm.trans ran
      rcases takes_cons.1 late with ⟨rfl, same, _⟩ | ⟨_, _, later⟩
      · cases same
        cases here
        cases due
      · exact absurd later not_takes_nil
  have ran : (initial 1 onlyIndex).run? (twoGenerations ++ [.advanceLoad 1]) =
      some (twoListed.setLoad 1 "/x.js" (.hasRead (Loaded.read 1 onlyIndex "/x.js"))) := by
    rw [run?_append, run_twoGenerations]
    rfl
  refine ⟨_, ran, aside, rfl, ?_⟩
  apply (newer_loads_undisturbed ran aside).2.2 1 _ rfl rfl rfl
  intro n forgotten
  exact Nat.le_of_eq (forgottenAt_twoGenerations (by simp) forgotten)

def readsAndKeep : List Event := [.advanceLoad 0, .advanceLoad 1, .advanceLoad 1]

/-- The older load puts its index in place of the newer one's and takes the newer load off the list:
the path is not listed as running though the newer load is under way. -/
theorem older_load_displaces_newer : ∃ (t u v : State) (older newer : Loaded),
    (initial 1 onlyIndex).run? (twoGenerations ++ readsAndKeep) = some t ∧
      Parted (initial 1 onlyIndex) (twoGenerations ++ readsAndKeep) 0 1 ∧
      (∀ n, ForgottenAt (initial 1 onlyIndex) (twoGenerations ++ readsAndKeep) n → n ≤ 1) ∧
      t.step? (.advanceLoad 0) = some u ∧ u.step? (.advanceLoad 0) = some v ∧
      t.kept.lookup (plain "/x.js") = some newer ∧ newer.serial = 1 ∧
      u.kept.lookup (plain "/x.js") = some older ∧ older.serial = 0 ∧
      (plain "/x.js", 1) ∈ u.running ∧ (plain "/x.js", 1) ∉ v.running ∧
      v.isUnfinished 1 = true ∧ v.isRunning "/x.js" = false := by
  obtain ⟨older, readOlder⟩ := exists_read_onlyIndex 0
  obtain ⟨newer, readNewer⟩ := exists_read_onlyIndex 1
  let t : State := ⟨1, onlyIndex, [(plain "/x.js", newer)], [(plain "/x.js", 1)],
    [⟨"/x.js", .waiting 0⟩, ⟨"/x.js", .waiting 1⟩],
    [⟨"/x.js", .hasRead (.ok older)⟩, ⟨"/x.js", .hasKept (.ok newer)⟩]⟩
  have ran : (initial 1 onlyIndex).run? (twoGenerations ++ readsAndKeep) = some t := by
    rw [run?_append, run_twoGenerations, Option.bind_some]
    simp [readsAndKeep, run?, step?, advanceLoad, setLoad, twoListed, readOlder, readNewer,
      Recent.put, Recent.forget, t]
  have forgotten : ForgottenAt (initial 1 onlyIndex) (twoGenerations ++ readsAndKeep) 1 :=
    ⟨_, _, ⟨callAndList 0 ++ [.forgetKept], callAndList 1 ++ readsAndKeep, rfl, rfl, rfl⟩, rfl⟩
  refine ⟨t, _, _, older, newer, ran, ⟨1, forgotten, by decide, by decide⟩, ?_, rfl, rfl, rfl, ?_,
    ?_, ?_, List.mem_cons_self, ?_, rfl, ?_⟩
  · intro n forgotten
    exact Nat.le_of_eq (forgottenAt_twoGenerations (by simp [readsAndKeep]) forgotten)
  · exact (Loaded.read_eq_ok.1 readNewer).2.1
  · exact Recent.lookup_put Nat.zero_lt_one t.kept (plain "/x.js") older
  · exact (Loaded.read_eq_ok.1 readOlder).2.1
  · simp [setLoad, t]
  · simp [isRunning, setLoad, t]

end DocSearch.Overlap.State
