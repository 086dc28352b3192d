import DocSearch.Literal.Number
import DocSearch.Text.Basic

/- Reading index text. The functions take the text that is left and return what they leave over;
a fault carries the text left at the place it shows. -/
namespace DocSearch.Literal

def callOpening : List Char := "Search.setIndex(".toList

def maxDepth : Nat := 128

def isSpace (c : Char) : Bool := c == ' ' || c == '\t' || c == '\n' || c == '\r'

def skipSpace (s : List Char) : List Char := s.dropWhile isSpace

def hexDigitValue? (c : Char) : Option Nat :=
  if '0' ≤ c && c ≤ '9' then some (c.toNat - '0'.toNat)
  else if 'a' ≤ c && c ≤ 'f' then some (c.toNat - 'a'.toNat + 10)
  else if 'A' ≤ c && c ≤ 'F' then some (c.toNat - 'A'.toNat + 10)
  else none

def hexValue? (a b c d : Char) : Option Nat := do
  let a ← hexDigitValue? a
  let b ← hexDigitValue? b
  let c ← hexDigitValue? c
  let d ← hexDigitValue? d
  return ((a * 16 + b) * 16 + c) * 16 + d

def isHighSurrogate (n : Nat) : Bool := 0xD800 ≤ n && n < 0xDC00

def isLowSurrogate (n : Nat) : Bool := 0xDC00 ≤ n && n < 0xE000

def ofSurrogates (high low : Nat) : Char :=
  Char.ofNat (0x10000 + (high - 0xD800) * 0x400 + (low - 0xDC00))

def escapedChar? (c : Char) : Option Char :=
  match c with
  | '"' => some '"'
  | '\\' => some '\\'
  | '/' => some '/'
  | '\'' => some '\''
  | 'b' => some '\x08'
  | 'f' => some '\x0c'
  | 'n' => some '\n'
  | 'r' => some '\r'
  | 't' => some '\t'
  | _ => none

def consChar (c : Char) (read : Except Fault (List Char × List Char)) :
    Except Fault (List Char × List Char) :=
  read.map fun (text, rest) => (c :: text, rest)

def takeString : List Char → Except Fault (List Char × List Char)
  | [] => .error ⟨.unterminatedString, []⟩
  | '"' :: rest => .ok ([], rest)
  | ['\\'] => .error ⟨.unterminatedEscape, []⟩
  | '\\' :: 'u' :: a :: b :: c :: d :: rest =>
    match hexValue? a b c d with
    | none => .error ⟨.missingHexDigits, a :: b :: c :: d :: rest⟩
    | some unit =>
      if isHighSurrogate unit then
        match rest with
        | '\\' :: 'u' :: e :: f :: g :: h :: rest =>
          match hexValue? e f g h with
          | none => .error ⟨.missingHexDigits, e :: f :: g :: h :: rest⟩
          | some low =>
            if isLowSurrogate low then consChar (ofSurrogates unit low) (takeString rest)
            else .error ⟨.invalidLowSurrogate, rest⟩
        | '\\' :: 'u' :: rest => .error ⟨.missingHexDigits, rest⟩
        | rest => .error ⟨.unpairedHighSurrogate, rest⟩
      else if isLowSurrogate unit then .error ⟨.invalidUnicodeEscape, rest⟩
      else consChar (Char.ofNat unit) (takeString rest)
  | '\\' :: 'u' :: rest => .error ⟨.missingHexDigits, rest⟩
  | '\\' :: c :: rest =>
    match escapedChar? c with
    | some e => consChar e (takeString rest)
    | none => .error ⟨.unknownEscape, c :: rest⟩
  | c :: rest =>
    if c.toNat < 0x20 then .error ⟨.controlCharacter, c :: rest⟩ else consChar c (takeString rest)

def isNameStart (c : Char) : Bool := c.isAlpha || c == '_' || c == '$'

def isNameRest (c : Char) : Bool := c.isAlphanum || c == '_' || c == '$'

def takeKey : List Char → Except Fault (List Char × Bool × List Char)
  | '"' :: rest => (takeString rest).map fun (key, rest) => (key, false, rest)
  | c :: rest =>
    if isNameStart c then .ok (c :: rest.takeWhile isNameRest, true, rest.dropWhile isNameRest)
    else .error ⟨.missingKey, c :: rest⟩
  | [] => .error ⟨.missingKey, []⟩

/-- A value, whether some key in it stands without quotes, and the text after it. -/
structure Reading where
  value : Value
  bare : Bool
  rest : List Char

/-- Enters a key among the members read so far, which descend; none if it is there already. -/
def enter (key : String) (value : Value) :
    List (String × Value) → Option (List (String × Value))
  | [] => some [(key, value)]
  | (k, v) :: members =>
    if k < key then some ((key, value) :: (k, v) :: members)
    else if k = key then none
    else (enter key value members).map ((k, v) :: ·)

/-- The items of an array from the first on. Each takes at least one character, so `fuel` need not
exceed the length of the text. -/
def takeItems (item : List Char → Except Fault Reading) (bare : Bool) (items : List Value) :
    (fuel : Nat) → List Char → Except Fault Reading
  | 0, s => .error ⟨.endOfInput, s⟩
  | fuel + 1, s => do
    let read ← item s
    let bare := bare || read.bare
    match skipSpace read.rest with
    | ',' :: rest => takeItems item bare (read.value :: items) fuel rest
    | ']' :: rest => return ⟨.array (read.value :: items).reverse, bare, rest⟩
    | rest => throw ⟨.missingItemEnd, rest⟩

def takeArray (item : List Char → Except Fault Reading) (fuel : Nat) (s : List Char) :
    Except Fault Reading :=
  match skipSpace s with
  | ']' :: rest => .ok ⟨.array [], false, rest⟩
  | _ => takeItems item false [] fuel s

def takeMembers (item : List Char → Except Fault Reading) (bare : Bool)
    (members : List (String × Value)) : (fuel : Nat) → List Char → Except Fault Reading
  | 0, s => .error ⟨.endOfInput, s⟩
  | fuel + 1, s => do
    let start := skipSpace s
    let (key, keyBare, afterKey) ← takeKey start
    match skipSpace afterKey with
    | ':' :: afterColon =>
      let read ← item afterColon
      match enter (String.ofList key) read.value members with
      | none => throw ⟨.duplicateKey (String.ofList key), start⟩
      | some members =>
        let bare := bare || keyBare || read.bare
        match skipSpace read.rest with
        | ',' :: rest => takeMembers item bare members fuel rest
        | '\x7d' :: rest => return ⟨.object members.reverse, bare, rest⟩
        | rest => throw ⟨.missingMemberEnd, rest⟩
    | rest => throw ⟨.missing ':', rest⟩

def takeObject (item : List Char → Except Fault Reading) (fuel : Nat) (s : List Char) :
    Except Fault Reading :=
  match skipSpace s with
  | '\x7d' :: rest => .ok ⟨.object [], false, rest⟩
  | _ => takeMembers item false [] fuel s

def takeValue (fuel : Nat) : (depth : Nat) → List Char → Except Fault Reading
  | depth, s =>
    match skipSpace s with
    | [] => .error ⟨.endOfInput, []⟩
    | '\x7b' :: rest =>
      match depth with
      | 0 => .error ⟨.nestedTooDeeply, '\x7b' :: rest⟩
      | depth + 1 => takeObject (takeValue fuel depth) fuel rest
    | '[' :: rest =>
      match depth with
      | 0 => .error ⟨.nestedTooDeeply, '[' :: rest⟩
      | depth + 1 => takeArray (takeValue fuel depth) fuel rest
    | '"' :: rest => (takeString rest).map fun (text, rest) => ⟨.string (String.ofList text), false, rest⟩
    | 't' :: 'r' :: 'u' :: 'e' :: rest => .ok ⟨.bool true, false, rest⟩
    | 'f' :: 'a' :: 'l' :: 's' :: 'e' :: rest => .ok ⟨.bool false, false, rest⟩
    | 'n' :: 'u' :: 'l' :: 'l' :: rest => .ok ⟨.null, false, rest⟩
    | c :: rest =>
      if c = '-' || c.isDigit then
        (takeNumber (c :: rest)).map fun (n, rest) => ⟨.number n, false, rest⟩
      else .error ⟨.missingValue, c :: rest⟩

def skipSemicolon (s : List Char) : List Char :=
  match skipSpace s with
  | ';' :: rest => skipSpace rest
  | rest => rest

def skipMark : List Char → List Char
  | '\ufeff' :: rest => rest
  | s => s

def takeTextWithin (depth : Nat) (s : List Char) : Except Fault (Value × Bool) := do
  let start := skipSpace (skipMark s)
  match Text.after? callOpening start with
  | some inner =>
    let read ← takeValue s.length depth inner
    match skipSpace read.rest with
    | ')' :: rest =>
      match skipSemicolon rest with
      | [] => return (read.value, read.bare)
      | rest => throw ⟨.trailingCharacters, rest⟩
    | rest => throw ⟨.missingClosingParenthesis, rest⟩
  | none =>
    let read ← takeValue s.length depth start
    match skipSpace read.rest with
    | [] => return (read.value, read.bare)
    | rest => throw ⟨.trailingCharacters, rest⟩

def takeText (s : List Char) : Except Fault (Value × Bool) := takeTextWithin maxDepth s

/-- The value of an index text and its dialect: legacy as soon as one key stands without quotes. -/
def parse (source : String) : Except SyntaxError (Value × Dialect) :=
  let s := source.toList
  match takeText s with
  | .ok (value, bare) => .ok (value, if bare then .legacy else .json)
  | .error fault => .error (fault.locate s)

end DocSearch.Literal
