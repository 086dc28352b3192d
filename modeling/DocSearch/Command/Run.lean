import DocSearch.Command.Invocation
import DocSearch.Config
import DocSearch.Service.Server
import DocSearch.Stem.Snowball
import DocSearch.Tree.Change

/- What the commands do on a machine: its files, and the settings that are found on it. -/
namespace DocSearch

structure Host where
  files : FileTree
  home : String
  /-- What the environment names as the file of settings. -/
  configVariable : Option String
  /-- The time that a file gets which is written now. -/
  now : Int

inductive ConfigFailure
  | unreadable (path : String) (fault : FileFault)
  | unusable (path : String) (error : ConfigError)
deriving DecidableEq, Repr

def ConfigFailure.causes : ConfigFailure → List String
  | .unreadable path fault => [s!"Failed to read config file {path}", fault.message]
  | .unusable path error => [s!"Failed to parse config file {path}", error.message]

namespace Host

def defaultConfigPath (host : Host) : String :=
  [".config", "searchindex-mcp", "config.toml"].foldl FileTree.join host.home

def configFromFile (host : Host) (path : String) : Except ConfigFailure Config :=
  match host.files.text path with
  | .error fault => .error (.unreadable path fault)
  | .ok source => (Config.parse host.home source).mapError (.unusable path)

/-- The settings from the file that is named, else from the one that the environment names, else
from the default one. Only that last one may be missing. -/
def config (host : Host) (named : Option String) : Except ConfigFailure Config :=
  match named, host.configVariable.filter (!·.isEmpty) with
  | some path, _ => host.configFromFile path
  | none, some path => host.configFromFile (expandTilde host.home path)
  | none, none =>
    if host.files.isFile host.defaultConfigPath then host.configFromFile host.defaultConfigPath
    else .ok Config.default

end Host

namespace Command

inductive Failure
  | config (failure : ConfigFailure)
  | notFound (path : String)
  /-- The located file cannot be used as an index. -/
  | unloadable (file : String) (error : LoadError)
  | unreadable (file : String) (fault : FileFault)
  | unparsable (file : String) (error : ReadError)
  | unwritable (file : String) (fault : FileFault)
  /-- A request was refused with this text. -/
  | refused (text : String)

def Failure.causes : Failure → List String
  | .config failure => failure.causes
  | .notFound path => [FileTree.notFoundMessage path]
  | .unloadable file error => s!"Failed to load {file}" :: error.causes
  | .unreadable file fault => [s!"Failed to read {file}", fault.message]
  | .unparsable file error => [s!"Failed to parse {file}", error.message]
  | .unwritable file fault => [s!"Failed to write {file}", fault.message]
  | .refused text => [text]

inductive Outcome
  | done (code : Nat) (output errorOutput : String)
  | failed (failure : Failure)
  | serving

def differsCode : Nat := 1

def invalidCode : Nat := 2

def locate (host : Host) (path : String) : Except Failure String :=
  match host.files.locate? path with
  | some file => .ok file
  | none => .error (.notFound path)

def readIndex (host : Host) (path : String) : Except Failure Loaded := do
  let file ← locate host path
  (Loaded.read 0 host.files file).mapError (.unloadable file)

def check (host : Host) (path : String) : Except Failure Outcome := do
  let loaded ← readIndex host path
  let code := if loaded.report.isValid then 0 else invalidCode
  return .done code (Answer.loadedText loaded none) ""

def format (host : Host) (path : String) (checkOnly : Bool) (dialect : Option Dialect) :
    Except Failure (Outcome × Host) := do
  let file ← locate host path
  let source ← (host.files.text file).mapError (.unreadable file)
  let (index, detected) ← (SearchIndex.parse source).mapError (.unparsable file)
  let dialect := dialect.getD detected
  let text := index.toText dialect
  if text = source then return (.done 0 "" "", host)
  else if checkOnly then
    return (.done differsCode s!"{file} would be rewritten ({dialect.name} dialect)\n" "", host)
  else
    let files ← (host.files.writeFile file ⟨text.toUTF8, host.now⟩).mapError (.unwritable file)
    return (.done 0 s!"Rewrote {file} ({dialect.name} dialect)\n" "", { host with files })

def ask (host : Host) (config : Config) (request : Request) : Except Failure Outcome :=
  match ((Store.empty Store.defaultCapacity).reply config host.home host.files request).1 with
  | .ok text => .ok (.done 0 text "")
  | .error text => .error (.refused text)

def listObjects (host : Host) (path : String) (objtype : Option String) :
    Except Failure Outcome := do
  let loaded ← readIndex host path
  let objects := loaded.index.siteObjects.filter fun object =>
    match objtype with
    | some objtype => SearchIndex.typeName object == objtype
    | none => true
  let output := objects.map fun object =>
    Text.joined "\t" [object.fullname, SearchIndex.typeName object,
      (object.link? Answer.pageSuffix).getD ""]
  let ofType := match objtype with
    | some objtype => " of type " ++ objtype
    | none => ""
  let note := if objects.isEmpty then s!"No objects{ofType} in {loaded.path}\n" else ""
  return .done 0 (Answer.lines output) note

def perform (host : Host) (config : Config) : Task → Except Failure (Outcome × Host)
  | .serve => .ok (.serving, host)
  | .check path => (check host path).map (·, host)
  | .format path checkOnly dialect => format host path checkOnly dialect
  | .search path query limit => (ask host config (.search query limit (some path))).map (·, host)
  | .lookup path term titlesOnly =>
    (ask host config (.lookupTerm term (some titlesOnly) (some path))).map (·, host)
  | .objects path objtype => (listObjects host path objtype).map (·, host)

def run (host : Host) (invocation : Invocation) : Outcome × Host :=
  match host.config invocation.config with
  | .error failure => (.failed (.config failure), host)
  | .ok config =>
    match perform host config invocation.task with
    | .error failure => (.failed failure, host)
    | .ok result => result

end Command
end DocSearch
