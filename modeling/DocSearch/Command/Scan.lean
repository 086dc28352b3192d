import DocSearch.Literal.Basic

/- Reading a list of command arguments against a signature of options and positional arguments. -/
namespace DocSearch.Command

/-- Why arguments are not understood; asking for help or for the version ends the reading too. -/
inductive UsageError
  | helpAsked
  | versionAsked
  | unknownArgument
  | unknownCommand
  | missingValue
  | rejectedValue
  | surplusValue
  | repeated
  | missingArgument
deriving DecidableEq, Repr

inductive ValueKind
  | text
  /-- Text that is not empty. -/
  | path
  | count
  | dialect
deriving DecidableEq, Repr

def count? (text : String) : Option Nat :=
  let digits := match text.toList with
    | '+' :: rest => rest
    | all => all
  if digits.isEmpty || !digits.all Char.isDigit then none
  else
    let n := digits.foldl (fun n c => n * 10 + (c.toNat - '0'.toNat)) 0
    if n < UInt64.size then some n else none

def ValueKind.check : ValueKind → String → Except UsageError Unit
  | .text, _ => .ok ()
  | .path, s => if s.isEmpty then .error .missingValue else .ok ()
  | .count, s => if (count? s).isSome then .ok () else .error .rejectedValue
  | .dialect, s => if (Dialect.ofName? s).isSome then .ok () else .error .rejectedValue

inductive Action
  | value (kind : ValueKind)
  | switch
  /-- A switch that may be given several times. -/
  | counter
  | help
  | version
deriving DecidableEq, Repr

structure OptionSpec where
  name : String
  short : Option Char
  action : Action
deriving DecidableEq, Repr

structure Positional where
  name : String
  kind : ValueKind
deriving DecidableEq, Repr

structure Signature where
  options : List OptionSpec
  positionals : List Positional
  commands : List String

/-- An argument whose value is not checked yet; an option without a value still waits for it. -/
structure Pending where
  name : String
  kind : ValueKind
  value : Option String

structure Scan where
  /-- The settled values by name. A switch has one empty value each time that it is given. -/
  settled : List (String × String)
  pending : Option Pending
  /-- The number of positional arguments so far. -/
  place : Nat
  /-- All that follows is positional. -/
  trailing : Bool

namespace Scan

def start : Scan := ⟨[], none, 0, false⟩

def given (scan : Scan) (name : String) : Bool := (scan.settled.lookup name).isSome

def value? (scan : Scan) (name : String) : Option String := scan.settled.lookup name

def times (scan : Scan) (name : String) : Nat := (scan.settled.filter (·.1 == name)).length

def add (scan : Scan) (name value : String) : Scan :=
  { scan with settled := scan.settled ++ [(name, value)] }

def accept (scan : Scan) (name : String) (kind : ValueKind) (value : String) :
    Except UsageError Scan := do
  if scan.given name then throw .repeated
  kind.check value
  return scan.add name value

def settle (scan : Scan) : Except UsageError Scan :=
  match scan.pending with
  | none => .ok scan
  | some pending =>
    match pending.value with
    | none => .error .missingValue
    | some value => { scan with pending := none }.accept pending.name pending.kind value

def awaitsValue (scan : Scan) : Bool :=
  match scan.pending with
  | some pending => pending.value.isNone
  | none => false

def switchOn (scan : Scan) (spec : OptionSpec) : Except UsageError Scan := do
  let scan ← scan.settle
  match spec.action with
  | .help => throw .helpAsked
  | .version => throw .versionAsked
  | .counter => return scan.add spec.name ""
  | .switch | .value _ => if scan.given spec.name then throw .repeated else return scan.add spec.name ""

def takeOption (scan : Scan) (spec : OptionSpec) (kind : ValueKind) (attached : Option String) :
    Except UsageError Scan := do
  let scan ← scan.settle
  match attached with
  | some value => scan.accept spec.name kind value
  | none => return { scan with pending := some ⟨spec.name, kind, none⟩ }

def takeLong (signature : Signature) (scan : Scan) (text : List Char) : Except UsageError Scan :=
  let name := String.ofList (text.takeWhile (· ≠ '='))
  let attached := match text.dropWhile (· ≠ '=') with
    | [] => none
    | _ :: value => some (String.ofList value)
  match signature.options.find? (·.name == name) with
  | none => .error .unknownArgument
  | some spec =>
    match spec.action, attached with
    | .value kind, attached => scan.takeOption spec kind attached
    | _, some _ => .error .surplusValue
    | _, none => scan.switchOn spec

/-- Options of one letter, one after the other; what follows the letter of an option with a value
is its value, after an equals sign or not. -/
def takeShort (signature : Signature) : Scan → List Char → Except UsageError Scan
  | scan, [] => .ok scan
  | scan, c :: rest =>
    match signature.options.find? (·.short == some c) with
    | none => .error .unknownArgument
    | some spec =>
      match spec.action with
      | .value kind =>
        match rest with
        | [] => scan.takeOption spec kind none
        | '=' :: value => scan.takeOption spec kind (some (String.ofList value))
        | value => scan.takeOption spec kind (some (String.ofList value))
      | _ => do takeShort signature (← scan.switchOn spec) rest

def giveValue (scan : Scan) (value : String) : Scan :=
  { scan with pending := scan.pending.map fun pending => { pending with value := some value } }

/-- Takes the next positional argument. One too many is an unknown command where commands are
expected, unless all that follows was declared positional and it names a command. -/
def takePositional (signature : Signature) (scan : Scan) (text : String) :
    Except UsageError Scan :=
  match signature.positionals[scan.place]? with
  | some positional => do
    let scan ← scan.settle
    return { scan with
      pending := some ⟨positional.name, positional.kind, some text⟩, place := scan.place + 1 }
  | none =>
    if signature.commands.isEmpty || (scan.trailing && signature.commands.contains text) then
      .error .unknownArgument
    else .error .unknownCommand

def takeOne (signature : Signature) (scan : Scan) (text : String) : Except UsageError Scan :=
  if scan.trailing then scan.takePositional signature text
  else match text.toList with
    | ['-', '-'] => .ok { scan with trailing := true }
    | '-' :: '-' :: rest => scan.takeLong signature rest
    | '-' :: c :: rest => scan.takeShort signature (c :: rest)
    | _ => if scan.awaitsValue then .ok (scan.giveValue text) else scan.takePositional signature text

/-- Takes arguments up to the first command word, which comes back with what follows it. -/
def takeAll (signature : Signature) : Scan → List String →
    Except UsageError (Scan × Option (String × List String))
  | scan, [] => .ok (scan, none)
  | scan, text :: rest =>
    if !scan.trailing && !scan.awaitsValue && signature.commands.contains text then
      .ok (scan, some (text, rest))
    else do takeAll signature (← scan.takeOne signature text) rest

end Scan
end DocSearch.Command
