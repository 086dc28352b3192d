import DocSearch.Proofs.Overlap.Moments

/- What overlapping calls are told. An answer is what reading the file at some moment of the call
would have told, unless it is the failure of a load that the call has joined and that had read the
file before. -/
namespace DocSearch.Overlap.State
open FileTree
variable {s next base first : State} {event : Event} {events : List Event} {number load : Nat}
  {path : String} {phase after : CallPhase}

section
variable (first : State) (events : List Event)

/-- The answer is the failure of a load that the call joined and that had read the file before the
call began. -/
def TookOver (number : Nat) (path : String) (outcome : Outcome) : Prop :=
  ∃ (e : LoadError) (load : Nat), outcome = .error e ∧
    (∃ t : State, first.Passes events t ∧ t.calls[number]? = some ⟨path, .joined load⟩) ∧
      ReadBefore first events number load path outcome

def RunNew (s : State) (number : Nat) (path : String) (old : Option Nat) : Prop :=
  ∀ load, (path, load) ∈ s.running → old = some load ∨ ReadDuring first events s number load path

/-- What is known of a call in each phase. -/
def Backed (s : State) (number : Nat) (path : String) : CallPhase → Prop
  | .started | .foundStale | .foundNone | .abandoned => True
  | .foundKept loaded => WasRead first events path (.ok loaded)
  | .joined load => (∃ phase, s.loads[load]? = some ⟨path, phase⟩) ∧
      RunNew first events s number path (some load)
  | .foundJoined loaded => WasRead first events path (.ok loaded) ∧
      RunNew first events s number path none
  | .foundJoinedStale | .needsLoad => RunNew first events s number path none
  | .waiting load => (∃ phase, s.loads[load]? = some ⟨path, phase⟩) ∧
      ReadDuring first events s number load path
  | .answered outcome => Current first events number path outcome ∨
      TookOver first events number path outcome

end

theorem Step.running_cases (step : Step s event next) {entry : String × Nat}
    (member : entry ∈ next.running) : entry ∈ s.running ∨ s.loads[entry.2]? = none := by
  cases step with
  | change | «begin» | abandon | forgetKept => exact Or.inl member
  | forgetRunning => cases member
  | call _ step =>
    rcases step.listed with ⟨running, _⟩ | ⟨_, running, _⟩
    · exact Or.inl (running ▸ member)
    · rw [setCall_running, running] at member
      rcases List.mem_cons.1 member with rfl | old
      · exact Or.inr (List.getElem?_eq_none (Nat.le_refl _))
      · exact Or.inl old
  | load _ step =>
    cases step with
    | read | keep | keepNothing => exact Or.inl member
    | finish => exact Or.inl (List.mem_filter.1 member).1

theorem RunNew.step {old : Option Nat} (new : RunNew first events s number path old)
    (passes : first.Passes events s) (pending : s.Pending number) (step : Step s event next) :
    RunNew first events next number path old := by
  intro load member
  rcases step.running_cases member with before | unlisted
  · exact (new load before).imp_right fun during => during.step passes pending step
  · have during : ReadDuring first events s number load path := by
      intro phase outcome here
      rw [unlisted] at here
      cases here
    exact Or.inr (during.step passes pending step)

theorem Backed.step (backed : Backed first events s number path phase)
    (passes : first.Passes events s) (here : s.calls[number]? = some ⟨path, phase⟩)
    (step : Step s event next) : Backed first events next number path phase := by
  have pending (going : isOver phase = false) : s.Pending number := ⟨_, here, going⟩
  cases phase with
  | started | foundStale | foundNone | abandoned | foundKept | answered => exact backed
  | joined =>
    obtain ⟨⟨_, there⟩, new⟩ := backed
    exact ⟨step.load_stays there, new.step passes (pending rfl) step⟩
  | foundJoined => exact ⟨backed.1, RunNew.step backed.2 passes (pending rfl) step⟩
  | foundJoinedStale | needsLoad => exact RunNew.step backed passes (pending rfl) step
  | waiting =>
    obtain ⟨⟨_, there⟩, during⟩ := backed
    exact ⟨step.load_stays there, during.step passes (pending rfl) step⟩

section
variable {capacity : Nat} {files : FileTree}

theorem CallStep.backed (step : CallStep s path phase base after)
    (passes : (initial capacity files).Passes events s)
    (given : ∀ path, .beginCall path ∈ events → plain path = path)
    (dated : Dated (initial capacity files) events)
    (here : s.calls[number]? = some ⟨path, phase⟩)
    (backed : Backed (initial capacity files) events s number path phase) :
    Backed (initial capacity files) events (base.setCall number path after) number path after := by
  have same := (passes.plainPaths given).calls number ⟨path, phase⟩ here
  dsimp only at same
  have pending : s.Pending number := ⟨_, here, step.going⟩
  have running := passes.running
  have there {load : Nat} (member : (path, load) ∈ s.running) :
      ∃ phase, s.loads[load]? = some ⟨path, phase⟩ ∧ phase.isGoing = true := by
    obtain ⟨⟨its, phase⟩, found, key, going⟩ := running.going path load member
    have plainIts := (passes.plainPaths given).loads load ⟨its, phase⟩ found
    dsimp only at plainIts key
    rw [plainIts] at key
    exact ⟨phase, key ▸ found, going⟩
  cases step with
  | findKept found =>
    rw [same] at found
    exact passes.wasRead_kept given (mem_of_lookup found)
  | findNone | findStale | forgetStale => trivial
  | answerKept fresh => exact Or.inl (current_of_fresh dated backed passes pending fresh)
  | @join load found =>
    rw [same] at found
    obtain ⟨phase, itself, _⟩ := there (mem_of_lookup found)
    refine ⟨⟨phase, itself⟩, fun other member => Or.inl ?_⟩
    -- No path is listed twice.
    exact found.symm.trans (lookup_of_mem running.once member)
  | findIdle idle =>
    intro load member
    rw [same, lookup_of_mem running.once member] at idle
    cases idle
  | @findJoined load loaded came =>
    obtain ⟨⟨phase, itself⟩, new⟩ := backed
    obtain ⟨other, finished⟩ := of_outcome? came
    cases itself.symm.trans finished
    refine ⟨passes.wasRead itself rfl, fun load member => ?_⟩
    rcases new load member with joined | during
    · -- The load that was joined has finished and is not running any more.
      cases joined
      obtain ⟨phase, found, going⟩ := there member
      cases found.symm.trans itself
      cases going
    · exact Or.inr during
  | @answerFailure load e came =>
    obtain ⟨⟨phase, itself⟩, _⟩ := backed
    obtain ⟨other, finished⟩ := of_outcome? came
    cases itself.symm.trans finished
    rcases passes.during_or_before here rfl itself rfl with current | before
    · exact Or.inl current
    · exact Or.inr ⟨e, load, rfl, ⟨s, passes, here⟩, before⟩
  | answerJoined fresh => exact Or.inl (current_of_fresh dated backed.1 passes pending fresh)
  | findJoinedStale => exact backed.2
  | forgetJoined => exact backed
  | @await load found =>
    rw [same] at found
    have member := mem_of_lookup found
    obtain ⟨phase, itself, _⟩ := there member
    exact ⟨⟨phase, itself⟩, (backed load member).resolve_left fun none => by cases none⟩
  | list idle =>
    refine ⟨⟨.listed, loads_listLoad_last s path⟩, fun phase outcome found read => ?_⟩
    cases (loads_listLoad_last s path).symm.trans found
    cases read
  | @answerWaiting load outcome came =>
    obtain ⟨⟨phase, itself⟩, during⟩ := backed
    obtain ⟨other, finished⟩ := of_outcome? came
    cases itself.symm.trans finished
    exact Or.inl (during _ outcome itself rfl)

theorem Passes.backed (passes : (initial capacity files).Passes events s)
    (given : ∀ path, .beginCall path ∈ events → plain path = path)
    (dated : Dated (initial capacity files) events) (here : s.calls[number]? = some ⟨path, phase⟩) :
    Backed (initial capacity files) events s number path phase := by
  refine passes_induction (fun s => ∀ (call : Call), s.calls[number]? = some call →
    Backed (initial capacity files) events s number call.path call.phase)
    (fun _ found => by cases found) ?_ passes ⟨path, phase⟩ here
  rintro event _ s next before _ step all ⟨path, phase⟩ here
  rcases step.call_cases here with old | ⟨was, old, _, gone | ⟨base, own, rfl⟩⟩ | ⟨_, _, new, _⟩
  · exact (all ⟨path, phase⟩ old).step before old step
  · cases gone
    trivial
  · exact own.backed before given dated old (all ⟨path, was⟩ old)
  · cases new
    trivial

/-- Every answer is what reading the file at some moment of the call would have told, as long as
contents at one path that differ also differ in size or time. The only exception is the failure of a
load that the call has joined and that had read the file before the call began. -/
theorem reply_current (ran : (initial capacity files).run? events = some s)
    (given : ∀ path, .beginCall path ∈ events → plain path = path)
    (dated : Dated (initial capacity files) events) {outcome : Outcome}
    (answered : s.calls[number]? = some ⟨path, .answered outcome⟩) :
    Current (initial capacity files) events number path outcome ∨
      TookOver (initial capacity files) events number path outcome :=
  (passes_last ran).backed given dated answered

end

theorem reply_current_one_load : ∃ (s : State) (loaded : Loaded),
    (initial 1 onlyIndex).run? (oneLoad ++ [.advanceCall 0]) = some s ∧
      s.calls[0]? = some ⟨"/x.js", .answered (.ok loaded)⟩ ∧
        Current (initial 1 onlyIndex) (oneLoad ++ [.advanceCall 0]) 0 "/x.js" (.ok loaded) := by
  obtain ⟨loaded, read⟩ := exists_read_onlyIndex 0
  let last : State := ⟨1, onlyIndex, [(plain "/x.js", loaded)], [],
    [⟨"/x.js", .answered (.ok loaded)⟩], [⟨"/x.js", .finished (.ok loaded)⟩]⟩
  have ran : (initial 1 onlyIndex).run? (oneLoad ++ [.advanceCall 0]) = some last := by
    rw [run?_append, run_oneLoad read]
    rfl
  have answered : last.calls[0]? = some ⟨"/x.js", .answered (.ok loaded)⟩ := rfl
  have given (path : String) (member : .beginCall path ∈ oneLoad ++ [.advanceCall 0]) :
      plain path = path := by
    have same : path = "/x.js" := by simpa [oneLoad] using member
    rw [same]
    decide +kernel
  have dated : Dated (initial 1 onlyIndex) (oneLoad ++ [.advanceCall 0]) := by
    have files {t : State} (passes : (initial 1 onlyIndex).Passes (oneLoad ++ [.advanceCall 0]) t) :
        t.files = onlyIndex := passes.files.resolve_right (by simp [oneLoad])
    intro s t passes passesToo path before now there thereToo _ _
    rw [files passes] at there
    rw [files passesToo, there] at thereToo
    cases thereToo
    rfl
  rcases reply_current ran given dated answered with current | ⟨_, _, failed, _⟩
  · exact ⟨last, loaded, ran, answered, current⟩
  · cases failed

def emptyFile : FileData := ⟨"".toUTF8, 1⟩

def brokenIndex : FileTree := .alone emptyFile

def breaking : List Event :=
  [.advanceCall 0, .advanceCall 0, .advanceCall 0, .advanceLoad 0, .changeFiles onlyIndex]

def joining : List Event :=
  [.beginCall "/x.js", .advanceCall 1, .advanceCall 1, .advanceLoad 0, .advanceLoad 0, .advanceCall 1]

def mending : List Event := .beginCall "/x.js" :: (breaking ++ joining)

theorem read_brokenIndex : ∃ e, Loaded.read 0 brokenIndex "/x.js" = .error e := by
  obtain ⟨e, parsed⟩ : ∃ e, SearchIndex.parse "" = .error e := ⟨_, rfl⟩
  have there : brokenIndex.file "/x.js" = .ok emptyFile := FileTree.file_alone emptyFile
  have text : String.fromUTF8? emptyFile.bytes = some "" := FileTree.fromUTF8?_toUTF8 ""
  refine ⟨.content e, ?_⟩
  rw [Loaded.read, there]
  simp only [SearchIndex.ofFile, FileTree.textOf, text, parsed]

theorem run_mending {e : LoadError} (read : Loaded.read 0 brokenIndex "/x.js" = .error e) :
    (initial 1 brokenIndex).run? mending = some ⟨1, onlyIndex, [], [],
      [⟨"/x.js", .waiting 0⟩, ⟨"/x.js", .answered (.error e)⟩],
        [⟨"/x.js", .finished (.error e)⟩]⟩ := by
  have begun : (initial 1 brokenIndex).run? (mending.take 6) = some ⟨1, onlyIndex, [],
      [(plain "/x.js", 0)], [⟨"/x.js", .waiting 0⟩],
      [⟨"/x.js", .hasRead (Loaded.read 0 brokenIndex "/x.js")⟩]⟩ := rfl
  have joined : (State.mk 1 onlyIndex [] [(plain "/x.js", 0)] [⟨"/x.js", .waiting 0⟩]
      [⟨"/x.js", .hasRead (.error e)⟩]).run? ((mending.drop 6).take 3) = some ⟨1, onlyIndex, [],
      [(plain "/x.js", 0)], [⟨"/x.js", .waiting 0⟩, ⟨"/x.js", .joined 0⟩],
      [⟨"/x.js", .hasRead (.error e)⟩]⟩ := by
    simp [mending, breaking, joining, run?, step?, advanceCall, setCall]
  rw [← List.take_append_drop 6 mending, run?_append, begun, read, Option.bind_some,
    ← List.take_append_drop 3 (mending.drop 6), run?_append, joined, Option.bind_some]
  simp [mending, breaking, joining, run?, step?, advanceLoad, advanceCall, setLoad, setCall,
    outcome?]

theorem plain_mending (path : String) (member : .beginCall path ∈ mending) : plain path = path := by
  have same : path = "/x.js" := by simpa [mending, breaking, joining] using member
  rw [same]
  decide +kernel

theorem dated_mending : Dated (initial 1 brokenIndex) mending := by
  intro s t passes passesToo path before now there thereToo _ time
  have known {u : State} (passes : (initial 1 brokenIndex).Passes mending u) {data : FileData}
      (found : u.files.file path = .ok data) : data = emptyFile ∨ data = indexFile := by
    rcases passes.files with same | changed
    · rw [same] at found
      exact Or.inl (eq_of_file_alone found)
    · have same : u.files = onlyIndex := by simpa [mending, breaking, joining] using changed
      rw [same] at found
      exact Or.inr (eq_of_file_alone found)
  rcases known passes there with rfl | rfl <;> rcases known passesToo thereToo with rfl | rfl
  · rfl
  · cases time
  · cases time
  · rfl

theorem mended_of_pending (passes : (initial 1 brokenIndex).Passes mending s)
    (pending : s.Pending 1) : s.files = onlyIndex := by
  have begun (absent : s.calls[1]? = none) : False := by
    obtain ⟨call, here, _⟩ := pending
    cases absent.symm.trans here
  have split : mending = [.beginCall "/x.js"] ++ breaking ++ joining := rfl
  rw [split] at passes
  rcases passes.of_append with opening | ⟨last, ran, closing⟩
  · refine (begun ?_).elim
    rcases opening.of_append with ⟨before, after, split, ran⟩ | ⟨last, ran, advancing⟩
    · rcases before with _ | ⟨event, before⟩
      · cases ran
        rfl
      · obtain ⟨rfl, rest⟩ := List.cons.inj split
        obtain ⟨rfl, _⟩ := List.append_eq_nil_iff.1 rest.symm
        cases ran
        rfl
    · refine passes_induction (·.calls[1]? = none) (by cases ran; rfl) ?_ advancing
      intro event member s next _ _ step absent
      cases here : next.calls[1]? with
      | none => rfl
      | some call =>
        rcases step.call_cases here with old | ⟨_, old, _⟩ | ⟨_, rfl, _⟩
        · cases absent.symm.trans old
        · cases absent.symm.trans old
        · simp [breaking] at member
  · have start : last.files = onlyIndex := by
      cases ran
      rfl
    exact (closing.files.resolve_right (by simp [joining])).trans start

/-- The call that joins the load is told that the file is broken, though it was in order whenever the
call could have read it. -/
theorem joined_failure_not_current : ∃ (s : State) (e : LoadError),
    (∀ path, .beginCall path ∈ mending → plain path = path) ∧
      Dated (initial 1 brokenIndex) mending ∧
        (initial 1 brokenIndex).run? mending = some s ∧
          s.calls[1]? = some ⟨"/x.js", .answered (.error e)⟩ ∧
            ¬ Current (initial 1 brokenIndex) mending 1 "/x.js" (.error e) := by
  obtain ⟨e, read⟩ := read_brokenIndex
  obtain ⟨loaded, readNow⟩ := exists_read_onlyIndex 0
  refine ⟨_, e, plain_mending, dated_mending, run_mending read, rfl, ?_⟩
  rintro ⟨t, passes, pending, same⟩
  rw [mended_of_pending passes pending, readNow] at same
  cases same

end DocSearch.Overlap.State
