import DocSearch.Literal.Parser

/- Writing index text: no space anywhere, ASCII only, the members of every object in a fixed order. -/
namespace DocSearch.Literal

def reservedWords : List String :=
  ["abstract", "boolean", "break", "byte", "case", "catch", "char", "class", "const", "continue",
   "debugger", "default", "delete", "do", "double", "else", "enum", "export", "extends", "false",
   "final", "finally", "float", "for", "function", "goto", "if", "implements", "import", "in",
   "instanceof", "int", "interface", "long", "native", "new", "null", "package", "private",
   "protected", "public", "return", "short", "static", "super", "switch", "synchronized", "this",
   "throw", "throws", "transient", "true", "try", "typeof", "var", "void", "volatile", "while",
   "with"]

def isBareKey (key : String) : Bool :=
  match key.toList with
  | [] => false
  | c :: rest =>
    (c.isAlpha || c == '_') && rest.all (fun d => d.isAlphanum || d == '_') &&
      !reservedWords.contains key

def hexUnit (n : Nat) : List Char :=
  [n / 0x1000 % 16, n / 0x100 % 16, n / 0x10 % 16, n % 16].map Nat.digitChar

def utf16Units (c : Char) : List Nat :=
  if c.toNat < 0x10000 then [c.toNat]
  else [0xD800 + (c.toNat - 0x10000) / 0x400, 0xDC00 + (c.toNat - 0x10000) % 0x400]

def escapeChar (c : Char) : List Char :=
  if c = '"' then ['\\', '"']
  else if c = '\\' then ['\\', '\\']
  else if c = '\x08' then ['\\', 'b']
  else if c = '\x0c' then ['\\', 'f']
  else if c = '\n' then ['\\', 'n']
  else if c = '\r' then ['\\', 'r']
  else if c = '\t' then ['\\', 't']
  else if ' ' ≤ c && c ≤ '~' then [c]
  else (utf16Units c).flatMap fun unit => '\\' :: 'u' :: hexUnit unit

def renderString (s : String) : List Char := '"' :: s.toList.flatMap escapeChar ++ ['"']

def renderKey (dialect : Dialect) (key : String) : List Char :=
  match dialect with
  | .legacy => if isBareKey key then key.toList else renderString key
  | .json => renderString key

def commaSeparated : List (List Char) → List Char
  | [] => []
  | [part] => part
  | part :: parts => part ++ ',' :: commaSeparated parts

/-- The legacy dialect orders the members by their whole text, the other one by key. -/
def arrange (dialect : Dialect) (members : List (List Char)) : List (List Char) :=
  match dialect with
  | .legacy => members.mergeSort (fun a b => !decide (b < a))
  | .json => members

mutual

def render (dialect : Dialect) : Value → List Char
  | .null => "null".toList
  | .bool b => if b then "true".toList else "false".toList
  | .number n => renderNumber n
  | .string s => renderString s
  | .array items => '[' :: commaSeparated (renderItems dialect items) ++ [']']
  | .object members =>
    '\x7b' :: commaSeparated (arrange dialect (renderMembers dialect members)) ++ ['\x7d']

def renderItems (dialect : Dialect) : List Value → List (List Char)
  | [] => []
  | item :: items => render dialect item :: renderItems dialect items

def renderMembers (dialect : Dialect) : List (String × Value) → List (List Char)
  | [] => []
  | (key, value) :: members =>
    (renderKey dialect key ++ ':' :: render dialect value) :: renderMembers dialect members

end

def write (dialect : Dialect) (value : Value) : String := String.ofList (render dialect value)

def writeCall (dialect : Dialect) (value : Value) : String :=
  String.ofList (callOpening ++ render dialect value ++ [')'])

end DocSearch.Literal
