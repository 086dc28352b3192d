import DocSearch.Literal.Parser
import DocSearch.Toml.Scalar

/- Reading TOML documents. -/
namespace DocSearch.Toml

def isSpace (c : Char) : Bool := c == ' ' || c == '\t'

def skipSpace (s : List Char) : List Char := s.dropWhile isSpace

def isPlain (c : Char) : Bool := c == '\t' || (0x20 ≤ c.toNat && c.toNat ≠ 0x7F)

def skipComment : List Char → List Char
  | '#' :: rest => rest.dropWhile isPlain
  | s => s

def takeNewline : List Char → Option (List Char)
  | '\n' :: rest => some rest
  | '\r' :: '\n' :: rest => some rest
  | _ => none

def skipLines : (fuel : Nat) → List Char → List Char
  | 0, s => s
  | fuel + 1, s =>
    let s := skipComment (skipSpace s)
    match takeNewline s with
    | some rest => skipLines fuel rest
    | none => s

def isBareKeyChar (c : Char) : Bool := c.isAlphanum || c == '_' || c == '-'

def hexNumber? (digits : List Char) : Option Nat :=
  digits.foldlM (fun n c => (Literal.hexDigitValue? c).map (n * 16 + ·)) 0

def takeHexChar (count : Nat) (s : List Char) : Option (Char × List Char) := do
  let digits := s.take count
  if digits.length ≠ count then failure
  let n ← hexNumber? digits
  if n.isValidChar then some (Char.ofNat n, s.drop count) else none

def takeEscape : List Char → Option (Char × List Char)
  | 'b' :: rest => some ('\x08', rest)
  | 't' :: rest => some ('\t', rest)
  | 'n' :: rest => some ('\n', rest)
  | 'f' :: rest => some ('\x0c', rest)
  | 'r' :: rest => some ('\r', rest)
  | 'e' :: rest => some ('\x1b', rest)
  | '"' :: rest => some ('"', rest)
  | '\\' :: rest => some ('\\', rest)
  | 'x' :: rest => takeHexChar 2 rest
  | 'u' :: rest => takeHexChar 4 rest
  | 'U' :: rest => takeHexChar 8 rest
  | _ => none

def takeBasic (read : List Char) : (fuel : Nat) → List Char → Option (List Char × List Char)
  | _ + 1, '"' :: rest => some (read.reverse, rest)
  | fuel + 1, '\\' :: rest => do
    let (c, rest) ← takeEscape rest
    takeBasic (c :: read) fuel rest
  | fuel + 1, c :: rest => if isPlain c then takeBasic (c :: read) fuel rest else none
  | _, _ => none

def skipBlankLines : List Char → List Char
  | '\r' :: '\n' :: rest => skipBlankLines rest
  | c :: rest => if isSpace c || c == '\n' then skipBlankLines rest else c :: rest
  | [] => []

/-- The close of a string in triple quotes: up to two more quotes before it belong to the string. -/
def takeClose (quote : Char) (s : List Char) : Option (List Char × List Char) :=
  let run := s.takeWhile (· = quote)
  if 3 ≤ run.length && run.length ≤ 5 then
    some (List.replicate (run.length - 3) quote, s.drop run.length)
  else none

/-- The rest of a string in triple quotes, with line ends as they stand there; escapes are read only
where `escapes` holds. -/
def takeLong (quote : Char) (escapes : Bool) (read : List Char) :
    (fuel : Nat) → List Char → Option (List Char × List Char)
  | 0, _ => none
  | _ + 1, [] => none
  | fuel + 1, c :: rest =>
    if c = quote then
      match takeClose quote (c :: rest) with
      | some (quotes, rest) => some (read.reverse ++ quotes, rest)
      | none =>
        if (rest.takeWhile (· = quote)).length < 2 then takeLong quote escapes (c :: read) fuel rest
        else none
    else if c = '\\' && escapes then
      match takeNewline (skipSpace rest) with
      | some rest => takeLong quote escapes read fuel (skipBlankLines rest)
      | none => do
        let (c, rest) ← takeEscape rest
        takeLong quote escapes (c :: read) fuel rest
    else if isPlain c || (takeNewline (c :: rest)).isSome then
      takeLong quote escapes (c :: read) fuel rest
    else none

def takeQuoted (s : List Char) : Option (List Char × List Char) :=
  match s.dropWhile (fun c => isPlain c && c ≠ '\'') with
  | '\'' :: rest => some (s.takeWhile (fun c => isPlain c && c ≠ '\''), rest)
  | _ => none

def skipFirstNewline (s : List Char) : List Char := (takeNewline s).getD s

def takeString (fuel : Nat) : List Char → Option (List Char × List Char)
  | '"' :: '"' :: '"' :: rest => takeLong '"' true [] fuel (skipFirstNewline rest)
  | '"' :: rest => takeBasic [] fuel rest
  | '\'' :: '\'' :: '\'' :: rest => takeLong '\'' false [] fuel (skipFirstNewline rest)
  | '\'' :: rest => takeQuoted rest
  | _ => none

def takeKey (fuel : Nat) (s : List Char) : Option (String × List Char) :=
  match s with
  | '"' :: rest => (takeBasic [] fuel rest).map fun (key, rest) => (String.ofList key, rest)
  | '\'' :: rest => (takeQuoted rest).map fun (key, rest) => (String.ofList key, rest)
  | s =>
    let key := s.takeWhile isBareKeyChar
    if key.isEmpty then none else some (String.ofList key, s.dropWhile isBareKeyChar)

/-- Brackets that may be open at a time, and keys that dots may join. -/
def maxDepth : Nat := 80

def takeKeys (fuel : Nat) : (more : Nat) → List Char → Option ((List String × String) × List Char)
  | 0, _ => none
  | more + 1, s => do
    let (key, rest) ← takeKey fuel (skipSpace s)
    match skipSpace rest with
    | '.' :: rest =>
      let ((path, last), rest) ← takeKeys fuel more rest
      return ((key :: path, last), rest)
    | rest => return (([], key), rest)

def takeDotted (fuel : Nat) (s : List Char) : Option ((List String × String) × List Char) :=
  takeKeys fuel maxDepth s

def takeScalar (fuel : Nat) (s : List Char) : Option (Toml × List Char) :=
  let (word, rest) := spanScalar fuel s
  (scalar? word).map (·, rest)

def takeItems (value : List Char → Option (Toml × List Char)) (lines : Nat) (items : List Toml) :
    (fuel : Nat) → List Char → Option (List Toml × List Char)
  | 0, _ => none
  | fuel + 1, s =>
    match skipLines lines s with
    | ']' :: rest => some (items.reverse, rest)
    | s => do
      let (item, rest) ← value s
      match skipLines lines rest with
      | ',' :: rest => takeItems value lines (item :: items) fuel rest
      | ']' :: rest => return ((item :: items).reverse, rest)
      | _ => none

def takeEntries (value : List Char → Option (Toml × List Char)) (lines : Nat) (members : Members) :
    (fuel : Nat) → List Char → Option (Members × List Char)
  | 0, _ => none
  | fuel + 1, s =>
    match skipLines lines s with
    | '\x7d' :: rest => some (members, rest)
    | s => do
      let ((path, key), rest) ← takeDotted lines s
      match skipLines lines rest with
      | '=' :: rest =>
        let (item, rest) ← value (skipLines lines rest)
        let members ← addEntry [] path key item members
        match skipLines lines rest with
        | ',' :: rest => takeEntries value lines members fuel rest
        | '\x7d' :: rest => return (members, rest)
        | _ => none
      | _ => none

/-- A value, from text of at most `fuel` characters; `depth` more brackets may be opened. -/
def takeValue (fuel : Nat) : (depth : Nat) → List Char → Option (Toml × List Char)
  | depth + 1, '[' :: rest =>
    (takeItems (takeValue fuel depth) fuel [] fuel rest).map fun (items, rest) => (.list items, rest)
  | depth + 1, '\x7b' :: rest =>
    (takeEntries (takeValue fuel depth) fuel [] fuel rest).map fun (members, rest) =>
      (.table .inline members, rest)
  | _, s =>
    match takeString fuel s with
    | some (chars, rest) => some (.text (String.ofList chars), rest)
    | none => takeScalar fuel s

def takeLineEnd (s : List Char) : Option (List Char) :=
  match skipComment (skipSpace s) with
  | [] => some []
  | s => takeNewline s

def takeLines (length : Nat) (header : List String) (root : Members) :
    (fuel : Nat) → List Char → Option Members
  | 0, _ => none
  | fuel + 1, s =>
    match skipSpace s with
    | [] => some root
    | '[' :: '[' :: rest => do
      let ((path, key), rest) ← takeDotted length rest
      match rest with
      | ']' :: ']' :: rest =>
        let root ← openItem path key root
        let rest ← takeLineEnd rest
        takeLines length (path ++ [key]) root fuel rest
      | _ => none
    | '[' :: rest => do
      let ((path, key), rest) ← takeDotted length rest
      match rest with
      | ']' :: rest =>
        let root ← openTable path key root
        let rest ← takeLineEnd rest
        takeLines length (path ++ [key]) root fuel rest
      | _ => none
    | s =>
      match takeLineEnd s with
      | some rest => takeLines length header root fuel rest
      | none => do
        let ((path, key), rest) ← takeDotted length s
        match rest with
        | '=' :: rest =>
          let (value, rest) ← takeValue length maxDepth (skipSpace rest)
          let root ← addEntry header path key value root
          let rest ← takeLineEnd rest
          takeLines length header root fuel rest
        | _ => none

def parse? (source : String) : Option Members :=
  let s := Literal.skipMark source.toList
  takeLines (s.length + 1) [] [] (s.length + 1) s

end DocSearch.Toml
