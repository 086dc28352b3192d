import DocSearch.Literal.Printer
import DocSearch.Service.Server

/- The messages of a client: requests carry an id and get an answer, notifications get none. -/
namespace DocSearch

inductive MessageFault
  | unreadable
  | unknownMethod
  | invalidParameters
deriving DecidableEq, Repr

namespace MessageFault

def code : MessageFault → Int64
  | .unreadable => -32700
  | .unknownMethod => -32601
  | .invalidParameters => -32602

def message : MessageFault → String
  | .unreadable => "Parse error"
  | .unknownMethod => "Method not found"
  | .invalidParameters => "Invalid params"

end MessageFault

namespace Server

def programName : String := "searchindex-mcp"

def programVersion : String := "0.1.0"

def member? (value : Value) (name : String) : Option Value :=
  match value with
  | .object members => members.lookup name
  | _ => none

def answerTo (id : Value) (outcome : String × Value) : Value :=
  .ofMembers [("jsonrpc", .string "2.0"), ("id", id), outcome]

def resultValue (result : Value) : String × Value := ("result", result)

def faultValue (fault : MessageFault) : String × Value :=
  ("error", .ofMembers [("code", .ofInt64 fault.code), ("message", .string fault.message)])

def introduction : Value :=
  .ofMembers [("protocolVersion", .string protocolVersion),
    ("capabilities", .ofMembers [("tools", .object [])]),
    ("serverInfo", .ofMembers [("name", .string programName), ("version", .string programVersion)]),
    ("instructions", .string instructions)]

def toolList : Value :=
  .ofMembers [("tools", .array (Tool.all.map fun tool =>
    .ofMembers [("name", .string tool.name), ("description", .string tool.description),
      ("inputSchema", tool.schema)]))]

def contentValue (text : String) (failed : Bool) : Value :=
  .ofMembers [("content", .array [.ofMembers [("type", .string "text"), ("text", .string text)]]),
    ("isError", .bool failed)]

def callParameters (message : Value) : String × Option Value :=
  let parameters := (member? message "params").getD .null
  (((member? parameters "name").bind Value.toString?).getD "", member? parameters "arguments")

def outcomeOf [Stemmers] (server : Server) (home : String) (tree : FileTree) (message : Value) :
    (String × Value) × Server :=
  match (member? message "method").bind Value.toString? with
  | some "initialize" => (resultValue introduction, server)
  | some "ping" => (resultValue (.object []), server)
  | some "tools/list" => (resultValue toolList, server)
  | some "tools/call" =>
    let (name, arguments) := callParameters message
    match server.call home tree name arguments with
    | (.answered text, server) => (resultValue (contentValue text false), server)
    | (.failed text, server) => (resultValue (contentValue text true), server)
    | (.unknownTool, server) => (faultValue .invalidParameters, server)
    | (.noCall, server) => (faultValue .unknownMethod, server)
  | _ => (faultValue .unknownMethod, server)

def respond [Stemmers] (server : Server) (home : String) (tree : FileTree) (line : String) :
    Option String × Server :=
  match Literal.parse line with
  | .error _ => (some (Literal.write .json (answerTo .null (faultValue .unreadable))), server)
  | .ok (message, _) =>
    match member? message "id" with
    | none => (none, server)
    | some id =>
      let (outcome, server) := server.outcomeOf home tree message
      (some (Literal.write .json (answerTo id outcome)), server)

/-- The paths of the file system that an answer to a line may depend on. -/
def pathsOf (server : Server) (line : String) : List String :=
  let named := match Literal.parse line with
    | .error _ => []
    | .ok (message, _) =>
      (((callParameters message).2.bind (member? · "path")).bind Value.toString?).toList
  named ++ server.store.active.toList ++ server.store.cached.map (·.2.path)

end Server
end DocSearch
