import DocSearch.Command.Run
import DocSearch.Service.Message

/- The command line: it takes a picture of the files that a command may read, runs the command on it
and puts what it wrote back. -/
namespace DocSearch.Main

/-- What stands at a place whose directory has no links on its way. Of the files in a directory only
index files are read. -/
partial def nodeAt (place : String) (isNamed : Bool) : IO (Option Node) := do
  match ← (IO.FS.realPath place).toBaseIO with
  | .error _ => return none
  | .ok real =>
    if real.toString ≠ place then return some (.link real.toString)
    match (← real.metadata).type with
    | .file =>
      let isRead := isNamed || place.endsWith ("/" ++ indexFileName)
      let bytes ← if isRead then IO.FS.readBinFile place else pure ByteArray.empty
      let time := (← real.metadata).modified
      return some (.file ⟨bytes, time.sec * 1000000000 + time.nsec.toNat⟩)
    | .dir =>
      let entries ← (← real.readDir).toList.filterMapM fun entry => do
        let node ← nodeAt (FileTree.join place entry.fileName) false
        return node.map (entry.fileName, ·)
      return some (.directory entries)
    | _ => return none

def picture (tree : FileTree) (path : String) : IO FileTree := do
  match ← (IO.FS.realPath path).toBaseIO with
  | .error _ => return tree
  | .ok real =>
    let place := real.toString
    let some node ← nodeAt place true | return tree
    let named (text : String) : List String := (FileTree.parts text).filter (· ∉ ["", "."])
    let tree := { tree with root := tree.root.put (named place) node }
    let written := (if FileTree.isAbsolute path then [] else tree.working) ++ named path
    if (tree.resolve path).isOk then return tree
    return { tree with root := tree.root.put written (.link place) }

def pictures (paths : List String) : IO FileTree := do
  let working := (FileTree.parts (← IO.FS.realPath ".").toString).filter (· ≠ "")
  let start : FileTree := ⟨(Node.directory []).put working (.directory []), working⟩
  paths.foldlM picture start

def hostFor (paths : List String) : IO Host := do
  let home := (← IO.getEnv "HOME").getD "/"
  let configVariable ← IO.getEnv "SEARCHINDEX_MCP_CONFIG"
  let host : Host := ⟨⟨.directory [], []⟩, home, configVariable, 0⟩
  let all := paths ++ configVariable.toList ++ [host.defaultConfigPath]
  let files ← pictures (all ++ all.map (expandTilde home))
  return { host with files }

def taskPath? : Command.Task → Option String
  | .serve => none
  | .check path | .format path _ _ | .search path _ _ | .lookup path _ _ | .objects path _ =>
    some path

def putBack (before after : Host) (path : String) : IO Unit := do
  match before.files.locate? path with
  | none => return
  | some file =>
    match before.files.file file, after.files.file file with
    | .ok old, .ok new => if old.bytes.data ≠ new.bytes.data then IO.FS.writeBinFile file new.bytes
    | _, _ => return

partial def serveLines (home : String) (server : Server) : IO Unit := do
  let line ← (← IO.getStdin).getLine
  if line.isEmpty then return
  let tree ← pictures ((server.pathsOf line).flatMap fun path => [path, expandTilde home path])
  let (answer, server) := server.respond home tree line
  if let some answer := answer then
    let output ← IO.getStdout
    output.putStrLn answer
    output.flush
  serveLines home server

def serve (host : Host) (named : Option String) : IO UInt32 := do
  match host.config named with
  | .error failure =>
    IO.eprintln ("Error: " ++ Text.joined ": " failure.causes)
    return 1
  | .ok config =>
    let tree ← pictures config.defaultIndex.toList
    serveLines host.home (Server.start config host.home tree)
    return 0

def usage : String :=
  "Usage: searchindex-mcp [--config FILE] [-v] [COMMAND]\n\nCommands: serve, check, fmt, search, lookup, objects"

def usageCode : UInt32 := 2

def refuse : Command.UsageError → IO UInt32
  | .helpAsked => do
    IO.println usage
    return 0
  | .versionAsked => do
    IO.println (Server.programName ++ " " ++ Server.programVersion)
    return 0
  | _ => do
    IO.eprintln usage
    return usageCode

def perform (invocation : Command.Invocation) : IO UInt32 := do
  let path := taskPath? invocation.task
  let host ← hostFor (path.toList ++ invocation.config.toList)
  match Command.run host invocation with
  | (.serving, _) => serve host invocation.config
  | (.failed failure, _) =>
    IO.eprintln ("Error: " ++ Text.joined ": " failure.causes)
    return 1
  | (.done code output errorOutput, after) =>
    if let some path := path then putBack host after path
    IO.print output
    IO.eprint errorOutput
    return code.toUInt32

end DocSearch.Main

def main (arguments : List String) : IO UInt32 :=
  match DocSearch.Command.Invocation.parse arguments with
  | .error e => DocSearch.Main.refuse e
  | .ok invocation => DocSearch.Main.perform invocation
