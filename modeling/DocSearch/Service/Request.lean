import DocSearch.Literal.Printer
import DocSearch.Service.Tool
import DocSearch.Text.Quoted

/- Requests to the tools, and reading them from the values that clients send. -/
namespace DocSearch

inductive Request
  | inspectIndex (path : Option String)
  | loadIndex (path : String)
  | lookupTerm (term : String) (titlesOnly : Option Bool) (path : Option String)
  | resolveObject (name : String) (context path : Option String)
  | search (query : String) (limit : Option Nat) (path : Option String)
deriving DecidableEq, Repr

namespace Request

def text? : Value → Option String := Value.toString?

def flag? : Value → Option Bool
  | .bool b => some b
  | _ => none

def count? (value : Value) : Option Nat := value.toUInt64?.map UInt64.toNat

def required {α : Type} (read : Value → Option α) (value : Option Value) : Option α :=
  value.bind read

def optional {α : Type} (read : Value → Option α) : Option Value → Option (Option α)
  | none | some .null => some none
  | some value => (read value).map some

def ofFields? (tool : Tool) (value? : String → Option Value) : Option Request :=
  match tool with
  | .inspectIndex => do
    let path ← optional text? (value? "path")
    return .inspectIndex path
  | .loadIndex => do
    let path ← required text? (value? "path")
    return .loadIndex path
  | .lookupTerm => do
    let term ← required text? (value? "term")
    let titlesOnly ← optional flag? (value? "titles_only")
    let path ← optional text? (value? "path")
    return .lookupTerm term titlesOnly path
  | .resolveObject => do
    let name ← required text? (value? "name")
    let context ← optional text? (value? "context")
    let path ← optional text? (value? "path")
    return .resolveObject name context path
  | .search => do
    let query ← required text? (value? "query")
    let limit ← optional count? (value? "limit")
    let path ← optional text? (value? "path")
    return .search query limit path

inductive Fault
  /-- No field of that kind takes the value. -/
  | unfit (value : Value) (kind : FieldKind)
  | missing (field : String)
deriving DecidableEq

def ticked (text : String) : String := "\x60" ++ text ++ "\x60"

def describe : Value → String
  | .null => "null"
  | .bool b => "boolean " ++ ticked (if b then "true" else "false")
  | .number (.integer n) => "integer " ++ ticked (toString n.val)
  | .number (.real x) => "floating point " ++ ticked (Literal.write .json (.number (.real x)))
  | .string s => "string " ++ Text.quoted s
  | .array _ => "sequence"
  | .object _ => "map"

def kindName : FieldKind → String
  | .text => "a string"
  | .count => "usize"
  | .flag => "a boolean"

/-- A negative number where a count is expected: its type is right, its value is not. -/
def isNegativeCount : Value → FieldKind → Bool
  | .number (.integer n), .count => decide (n.val < 0)
  | _, _ => false

def Fault.message : Fault → String
  | .unfit value kind =>
    (if isNegativeCount value kind then "invalid value: " else "invalid type: ") ++
      describe value ++ ", expected " ++ kindName kind
  | .missing field => "missing field " ++ ticked field

def takes : FieldKind → Value → Bool
  | .text, value => (text? value).isSome
  | .count, value => (count? value).isSome
  | .flag, value => (flag? value).isSome

def unfit? (tool : Tool) (argument : String × Value) : Option Fault :=
  match tool.fields.find? (·.name == argument.1) with
  | none => none
  | some field =>
    if takes field.kind argument.2 || (!field.required && argument.2 = .null) then none
    else some (.unfit argument.2 field.kind)

/-- What is wrong with arguments that make no request: the first one that does not fit counts, in
the order of their names; where all fit, the field is missing that has to be there. -/
def faultOf (tool : Tool) (members : List (String × Value)) : Fault :=
  (members.findSome? (unfit? tool)).getD
    (.missing (((tool.fields.find? (·.required)).map (·.name)).getD ""))

def ofMembers (tool : Tool) (members : List (String × Value)) : Except Fault Request :=
  match ofFields? tool (members.lookup ·) with
  | some request => .ok request
  | none => .error (faultOf tool members)

/-- A request by field names, or as a list of the fields' values in their order, of which the last
ones may be missing. -/
def ofValue? (tool : Tool) : Value → Option Request
  | .object members => (ofMembers tool members).toOption
  | .array items =>
    if tool.fields.length < items.length then none
    else ofFields? tool (((tool.fields.map (·.name)).zip items).lookup ·)
  | _ => none

end Request
end DocSearch
