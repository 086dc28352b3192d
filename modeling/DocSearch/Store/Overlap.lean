import DocSearch.Store.Basic

/- Loads that overlap in time. A call for the index at a resolved path and the load that reads its
file advance in single steps, in any order and with changes of files in between; calls for one path,
however it is spelled, share a load that is running. -/
namespace DocSearch.Overlap

abbrev Outcome := Except LoadError Loaded

inductive LoadPhase
  /-- The load is listed as running and has not read its file. -/
  | listed
  | hasRead (outcome : Outcome)
  /-- An index that was read is kept; a failure leaves no trace. -/
  | hasKept (outcome : Outcome)
  /-- The load is no longer listed, and those who wait for it may go on. -/
  | finished (outcome : Outcome)

structure Load where
  path : String
  phase : LoadPhase

inductive CallPhase
  | started
  /-- An index is kept for the path; the call has to compare it with the file. -/
  | foundKept (loaded : Loaded)
  | foundStale
  | foundNone
  /-- A load was running; what it read before this call began has to be compared with the file. -/
  | joined (load : Nat)
  | foundJoined (loaded : Loaded)
  | foundJoinedStale
  | needsLoad
  /-- Whatever the load comes to is the answer. -/
  | waiting (load : Nat)
  | answered (outcome : Outcome)
  | abandoned

structure Call where
  path : String
  phase : CallPhase

/-- Calls and loads are numbered by their place in their list. -/
structure State where
  capacity : Nat
  files : FileTree
  /-- By the plainest spelling of the path. -/
  kept : Recent Loaded
  /-- The number of the load that is running for a path, by its plainest spelling. -/
  running : List (String × Nat)
  calls : List Call
  loads : List Load

inductive Event
  | changeFiles (files : FileTree)
  | beginCall (path : String)
  | advanceCall (call : Nat)
  | abandonCall (call : Nat)
  | advanceLoad (load : Nat)
  /-- The two halves of forgetting everything. -/
  | forgetKept
  | forgetRunning

namespace State

def initial (capacity : Nat) (files : FileTree) : State := ⟨capacity, files, [], [], [], []⟩

def setCall (s : State) (number : Nat) (path : String) (phase : CallPhase) : State :=
  { s with calls := s.calls.set number ⟨path, phase⟩ }

def setLoad (s : State) (number : Nat) (path : String) (phase : LoadPhase) : State :=
  { s with loads := s.loads.set number ⟨path, phase⟩ }

def outcome? (s : State) (load : Nat) : Option Outcome :=
  match s.loads[load]? with
  | some ⟨_, .finished outcome⟩ => some outcome
  | _ => none

def listLoad (s : State) (path : String) : State :=
  { s with
    running := (FileTree.plain path, s.loads.length) :: s.running
    loads := s.loads ++ [⟨path, .listed⟩] }

/-- The next step of a call; none if the call is over or has to wait. -/
def advanceCall (s : State) (number : Nat) (path : String) : CallPhase → Option State
  | .started =>
    match s.kept.lookup (FileTree.plain path) with
    | some loaded =>
      some ({ s with kept := s.kept.promote (FileTree.plain path) }.setCall number path
        (.foundKept loaded))
    | none => some (s.setCall number path .foundNone)
  | .foundKept loaded =>
    if loaded.isFresh s.files then some (s.setCall number path (.answered (.ok loaded)))
    else some (s.setCall number path .foundStale)
  | .foundStale =>
    some ({ s with kept := s.kept.forget (FileTree.plain path) }.setCall number path .foundNone)
  | .foundNone =>
    match s.running.lookup (FileTree.plain path) with
    | some load => some (s.setCall number path (.joined load))
    | none => some (s.setCall number path .needsLoad)
  | .joined load =>
    (s.outcome? load).map fun
      | .ok loaded => s.setCall number path (.foundJoined loaded)
      | .error e => s.setCall number path (.answered (.error e))
  | .foundJoined loaded =>
    if loaded.isFresh s.files then some (s.setCall number path (.answered (.ok loaded)))
    else some (s.setCall number path .foundJoinedStale)
  | .foundJoinedStale =>
    some ({ s with kept := s.kept.forget (FileTree.plain path) }.setCall number path .needsLoad)
  | .needsLoad =>
    match s.running.lookup (FileTree.plain path) with
    | some load => some (s.setCall number path (.waiting load))
    | none => some ((s.listLoad path).setCall number path (.waiting s.loads.length))
  | .waiting load => (s.outcome? load).map fun outcome => s.setCall number path (.answered outcome)
  | .answered _ | .abandoned => none

/-- The next step of a load. It reads its file in one step; a failure is not kept. -/
def advanceLoad (s : State) (number : Nat) (path : String) : LoadPhase → Option State
  | .listed => some (s.setLoad number path (.hasRead (Loaded.read number s.files path)))
  | .hasRead (.ok loaded) =>
    some ({ s with kept := s.kept.put s.capacity (FileTree.plain path) loaded }.setLoad number path
      (.hasKept (.ok loaded)))
  | .hasRead (.error e) => some (s.setLoad number path (.hasKept (.error e)))
  | .hasKept outcome =>
    some ({ s with running := s.running.filter (·.1 ≠ FileTree.plain path) }.setLoad number path
      (.finished outcome))
  | .finished _ => none

def isOver : CallPhase → Bool
  | .answered _ | .abandoned => true
  | _ => false

def step? (s : State) : Event → Option State
  | .changeFiles files => some { s with files }
  | .beginCall path => some { s with calls := s.calls ++ [⟨path, .started⟩] }
  | .advanceCall number =>
    match s.calls[number]? with
    | some call => s.advanceCall number call.path call.phase
    | none => none
  | .abandonCall number =>
    match s.calls[number]? with
    | some call => if isOver call.phase then none else some (s.setCall number call.path .abandoned)
    | none => none
  | .advanceLoad number =>
    match s.loads[number]? with
    | some load => s.advanceLoad number load.path load.phase
    | none => none
  | .forgetKept => some { s with kept := [] }
  | .forgetRunning => some { s with running := [] }

def run? (s : State) (events : List Event) : Option State := events.foldlM step? s

def answer? (s : State) (call : Nat) : Option Outcome :=
  match s.calls[call]? with
  | some ⟨_, .answered outcome⟩ => some outcome
  | _ => none

def isRunning (s : State) (path : String) : Bool := (s.running.lookup (FileTree.plain path)).isSome

def isUnfinished (s : State) (load : Nat) : Bool :=
  match s.loads[load]? with
  | some ⟨_, .finished _⟩ | none => false
  | some _ => true

end State
end DocSearch.Overlap
