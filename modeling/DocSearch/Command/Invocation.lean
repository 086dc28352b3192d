import DocSearch.Command.Scan

/- The commands and their arguments. -/
namespace DocSearch.Command

inductive Task
  | serve
  | check (path : String)
  | format (path : String) (checkOnly : Bool) (dialect : Option Dialect)
  | search (path query : String) (limit : Option Nat)
  | lookup (path term : String) (titlesOnly : Bool)
  | objects (path : String) (objtype : Option String)
deriving DecidableEq, Repr

inductive LogLevel
  | info
  | debug
  | trace
deriving DecidableEq, Repr

structure Invocation where
  /-- The file to read the settings from. -/
  config : Option String
  logLevel : LogLevel
  task : Task
deriving DecidableEq, Repr

def LogLevel.ofVerbosity : Nat → LogLevel
  | 0 => .info
  | 1 => .debug
  | _ => .trace

def configOption : OptionSpec := ⟨"config", none, .value .path⟩

def verboseOption : OptionSpec := ⟨"verbose", some 'v', .counter⟩

def sharedOptions : List OptionSpec := [configOption, verboseOption, ⟨"help", some 'h', .help⟩]

def helpWord : String := "help"

def path : Positional := ⟨"path", .path⟩

def commands : List (String × Signature) :=
  [("serve", ⟨sharedOptions, [], []⟩),
   ("check", ⟨sharedOptions, [path], []⟩),
   ("fmt", ⟨⟨"check", none, .switch⟩ :: ⟨"dialect", none, .value .dialect⟩ :: sharedOptions, [path], []⟩),
   ("search", ⟨⟨"limit", some 'n', .value .count⟩ :: sharedOptions, [path, ⟨"query", .text⟩], []⟩),
   ("lookup", ⟨⟨"titles", none, .switch⟩ :: sharedOptions, [path, ⟨"term", .text⟩], []⟩),
   ("objects", ⟨⟨"kind", none, .value .text⟩ :: sharedOptions, [path], []⟩)]

def topSignature : Signature :=
  ⟨⟨"version", some 'V', .version⟩ :: sharedOptions, [], helpWord :: commands.map Prod.fst⟩

def taskOf (command : String) (scan : Scan) : Task :=
  let path := (scan.value? "path").getD ""
  match command with
  | "check" => .check path
  | "fmt" => .format path (scan.given "check") ((scan.value? "dialect").bind Dialect.ofName?)
  | "search" => .search path ((scan.value? "query").getD "") ((scan.value? "limit").bind count?)
  | "lookup" => .lookup path ((scan.value? "term").getD "") (scan.given "titles")
  | "objects" => .objects path (scan.value? "kind")
  | _ => .serve

def helpError : List String → UsageError
  | [] => .helpAsked
  | [word] => if topSignature.commands.contains word then .helpAsked else .unknownCommand
  | _ => .unknownCommand

def scanCommand (signature : Signature) (arguments : List String) : Except UsageError Scan := do
  let (scan, _) ← Scan.start.takeAll signature arguments
  let scan ← scan.settle
  if signature.positionals.all (scan.given ·.name) then return scan else throw .missingArgument

/-- Reads a command line. What stands before the command is checked after the command; where both
give a shared option, the command's own counts. -/
def Invocation.parse (arguments : List String) : Except UsageError Invocation := do
  let (top, command) ← Scan.start.takeAll topSignature arguments
  match command with
  | none =>
    let top ← top.settle
    return ⟨top.value? "config", .ofVerbosity (top.times "verbose"), .serve⟩
  | some (word, rest) =>
    match commands.lookup word with
    | none => throw (helpError rest)
    | some signature =>
      let scan ← scanCommand signature rest
      let top ← top.settle
      let verbosity := if scan.given "verbose" then scan.times "verbose" else top.times "verbose"
      return ⟨(scan.value? "config").or (top.value? "config"), .ofVerbosity verbosity,
        taskOf word scan⟩

end DocSearch.Command
