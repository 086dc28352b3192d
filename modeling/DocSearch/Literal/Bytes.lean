import DocSearch.Literal.Parser

/- Index text read byte by byte, by a place that is a number of bytes. A piece of the text can be taken
out only where it begins and ends between two characters; reading stops where it does not. -/
namespace DocSearch.Literal.Bytes

inductive Stop
  /-- Something else than whole characters was to be taken out. -/
  | split (start stop : Nat)
  /-- There were more rounds than a text has characters. -/
  | endless
  | reported (e : SyntaxError)

abbrev Outcome (α : Type) := Except Stop α

/-- A byte stands for the character of its number; beyond ASCII no test here is for one of these. -/
def peek (source : String) (pos : Nat) : Option Char := source.toByteArray[pos]?.map Char.ofUInt8

def slice? (source : String) (start stop : Nat) : Option String :=
  if start ≤ stop ∧ (⟨start⟩ : String.Pos.Raw).IsValid source ∧
      (⟨stop⟩ : String.Pos.Raw).IsValid source then
    some (String.Pos.Raw.extract source ⟨start⟩ ⟨stop⟩)
  else none

def slice (source : String) (start stop : Nat) : Outcome String :=
  match slice? source start stop with
  | some text => .ok text
  | none => .error (.split start stop)

def lastNewline? (start : Nat) : List Char → Option Nat
  | [] => none
  | c :: rest =>
    (lastNewline? (start + c.utf8Size) rest).or (if c = '\n' then some start else none)

def locate (source : String) (pos : Nat) : Outcome Position := do
  let offset := min pos source.utf8ByteSize
  let before ← slice source 0 offset
  let lastLine ← match lastNewline? 0 before.toList with
    | some newline => slice before (newline + 1) before.utf8ByteSize
    | none => pure before
  return ⟨offset, before.toList.count '\n' + 1, lastLine.toList.length + 1⟩

def fail {α : Type} (source : String) (flaw : Flaw) (pos : Nat) : Outcome α := do
  let position ← locate source pos
  throw (.reported ⟨flaw, position⟩)

def pass (source : String) (test : Char → Bool) : (count pos : Nat) → Nat
  | 0, pos => pos
  | count + 1, pos =>
    if (peek source pos).any test then pass source test count (pos + 1) else pos

def passAll (source : String) (test : Char → Bool) (pos : Nat) : Nat :=
  pass source test (source.utf8ByteSize - pos) pos

def skipSpace (source : String) (pos : Nat) : Nat := passAll source isSpace pos

def skipMark (source : String) : Nat :=
  if Text.beginsWith "\ufeff" source then '\ufeff'.utf8Size else 0

def eat (source word : String) (pos : Nat) : Outcome (Option Nat) := do
  let rest ← slice source pos source.utf8ByteSize
  return if Text.beginsWith word rest then some (pos + word.utf8ByteSize) else none

def expect (source : String) (c : Char) (pos : Nat) : Outcome Nat :=
  if peek source pos = some c then .ok (pos + 1) else fail source (.missing c) pos

def isHexDigit (c : Char) : Bool := (hexDigitValue? c).isSome

def hexNumber (digits : String) : Nat :=
  digits.toList.foldl (fun n c => n * 16 + (hexDigitValue? c).getD 0) 0

def readHex (source : String) (pos : Nat) : Outcome (Nat × Nat) :=
  match (slice? source pos (pos + 4)).filter (·.toList.all isHexDigit) with
  | some digits => .ok (hexNumber digits, pos + 4)
  | none => fail source .missingHexDigits pos

def pairCode (high low : Nat) : Nat := 0x10000 + (high - 0xD800) * 0x400 + (low - 0xDC00)

def readCode (source : String) (pos : Nat) : Outcome (Nat × Nat) := do
  let (high, pos) ← readHex source pos
  if isHighSurrogate high then
    match ← eat source "\\u" pos with
    | none => fail source .unpairedHighSurrogate pos
    | some pos =>
      let (low, pos) ← readHex source pos
      if isLowSurrogate low then return (pairCode high low, pos)
      else fail source .invalidLowSurrogate pos
  else return (high, pos)

def char? (n : Nat) : Option Char := if n.isValidChar then some (Char.ofNat n) else none

def readUnicode (source : String) (pos : Nat) : Outcome (Char × Nat) := do
  let (n, pos) ← readCode source pos
  match char? n with
  | some c => return (c, pos)
  | none => fail source .invalidUnicodeEscape pos

/-- What stands behind a backslash. The byte is passed before it is known to be one of an escape. -/
def readEscape (source : String) (pos : Nat) : Outcome (Char × Nat) :=
  match peek source pos with
  | none => fail source .unterminatedEscape pos
  | some b =>
    let next := pos + 1
    if b = 'u' then readUnicode source next
    else match escapedChar? b with
      | some c => .ok (c, next)
      | none => fail source .unknownEscape (next - 1)

def isPlain (c : Char) : Bool := !(c = '"' || c = '\\' || c.toNat < 0x20)

/-- Runs of plain characters are taken out at once; `out` holds what has been read. -/
def readText (source : String) : (fuel : Nat) → (out : List Char) → (pos : Nat) →
    Outcome (List Char × Nat)
  | 0, _, _ => .error .endless
  | fuel + 1, out, pos => do
    let stop := passAll source isPlain pos
    let run ← slice source pos stop
    let out := out ++ run.toList
    match peek source stop with
    | some '"' => return (out, stop + 1)
    | some '\\' =>
      let (c, next) ← readEscape source (stop + 1)
      readText source fuel (out ++ [c]) next
    | some _ => fail source .controlCharacter stop
    | none => fail source .unterminatedString stop

def readString (source : String) (fuel pos : Nat) : Outcome (List Char × Nat) := do
  readText source fuel [] (← expect source '"' pos)

def readDigits (source : String) (flaw : Flaw) (pos : Nat) : Outcome Nat :=
  let stop := passAll source Char.isDigit pos
  if pos < stop then .ok stop else fail source flaw stop

def number? (text : String) : Option Number :=
  match takeNumberToken text.toList with
  | .ok (token, _) => token.number?
  | .error _ => none

def readFraction (source : String) (pos : Nat) : Outcome Nat :=
  if peek source pos = some '.' then readDigits source .missingFractionDigits (pos + 1) else .ok pos

def readExponent (source : String) (pos : Nat) : Outcome Nat :=
  if (peek source pos).any (fun c => c = 'e' || c = 'E') then
    let pos := pos + 1
    let pos := if (peek source pos).any (fun c => c = '+' || c = '-') then pos + 1 else pos
    readDigits source .missingExponentDigits pos
  else .ok pos

def readToken (source : String) (pos : Nat) : Outcome Nat := do
  let pos := if peek source pos = some '-' then pos + 1 else pos
  let pos ← readDigits source .missingDigits pos
  let pos ← readFraction source pos
  readExponent source pos

def readNumber (source : String) (start : Nat) : Outcome (Number × Nat) := do
  let pos ← readToken source start
  let text ← slice source start pos
  match number? text with
  | some n => return (n, pos)
  | none => fail source .numberOutOfRange start

def readKey (source : String) (fuel pos : Nat) : Outcome ((List Char × Bool) × Nat) := do
  match peek source pos with
  | some '"' =>
    let (key, pos) ← readString source fuel pos
    return ((key, false), pos)
  | some c =>
    if isNameStart c then
      let stop := passAll source isNameRest pos
      let key ← slice source pos stop
      return ((key.toList, true), stop)
    else fail source .missingKey pos
  | none => fail source .missingKey pos

/-- A value, and whether some key in it stands without quotes, with the place behind it. -/
abbrev Found := (Value × Bool) × Nat

def readItems (source : String) (item : Nat → Outcome Found) :
    (fuel : Nat) → (bare : Bool) → (items : List Value) → (pos : Nat) → Outcome Found
  | 0, _, _, _ => .error .endless
  | fuel + 1, bare, items, pos => do
    let ((value, itemBare), pos) ← item pos
    let bare := bare || itemBare
    let pos := skipSpace source pos
    match peek source pos with
    | some ',' => readItems source item fuel bare (value :: items) (pos + 1)
    | some ']' => return ((.array (value :: items).reverse, bare), pos + 1)
    | _ => fail source .missingItemEnd pos

def readArray (source : String) (item : Nat → Outcome Found) (fuel pos : Nat) : Outcome Found := do
  let pos := skipSpace source (← expect source '[' pos)
  if peek source pos = some ']' then return ((.array [], false), pos + 1)
  else readItems source item fuel false [] pos

def readMembers (source : String) (item : Nat → Outcome Found) :
    (fuel : Nat) → (bare : Bool) → (members : List (String × Value)) → (pos : Nat) → Outcome Found
  | 0, _, _, _ => .error .endless
  | fuel + 1, bare, members, pos => do
    let start := skipSpace source pos
    let ((key, keyBare), pos) ← readKey source fuel start
    let pos ← expect source ':' (skipSpace source pos)
    let ((value, valueBare), pos) ← item pos
    match enter (String.ofList key) value members with
    | none => fail source (.duplicateKey (String.ofList key)) start
    | some members =>
      let bare := bare || keyBare || valueBare
      let pos := skipSpace source pos
      match peek source pos with
      | some ',' => readMembers source item fuel bare members (pos + 1)
      | some '\x7d' => return ((.object members.reverse, bare), pos + 1)
      | _ => fail source .missingMemberEnd pos

def readObject (source : String) (item : Nat → Outcome Found) (fuel pos : Nat) : Outcome Found := do
  let pos := skipSpace source (← expect source '\x7b' pos)
  if peek source pos = some '\x7d' then return ((.object [], false), pos + 1)
  else readMembers source item fuel false [] pos

def readWord (source word : String) (value : Value) (pos : Nat) : Outcome Found := do
  match ← eat source word pos with
  | some next => return ((value, false), next)
  | none => fail source .missingValue pos

def readScalar (source : String) (fuel pos : Nat) : Outcome Found :=
  match peek source pos with
  | some '"' => do
    let (text, pos) ← readString source fuel pos
    return ((.string (String.ofList text), false), pos)
  | some 't' => readWord source "true" (.bool true) pos
  | some 'f' => readWord source "false" (.bool false) pos
  | some 'n' => readWord source "null" .null pos
  | some c => do
    if c = '-' || c.isDigit then
      let (n, pos) ← readNumber source pos
      return ((.number n, false), pos)
    else fail source .missingValue pos
  | none => fail source .endOfInput pos

def readValue (source : String) (fuel : Nat) : (depth pos : Nat) → Outcome Found
  | depth, pos =>
    let pos := skipSpace source pos
    if peek source pos = some '\x7b' then
      match depth with
      | 0 => fail source .nestedTooDeeply pos
      | depth + 1 => readObject source (readValue source fuel depth) fuel pos
    else if peek source pos = some '[' then
      match depth with
      | 0 => fail source .nestedTooDeeply pos
      | depth + 1 => readArray source (readValue source fuel depth) fuel pos
    else readScalar source fuel pos

def skipSemicolon (source : String) (pos : Nat) : Outcome Nat := do
  let pos := skipSpace source pos
  return skipSpace source ((← eat source ";" pos).getD pos)

def closeCall (source : String) (pos : Nat) : Outcome Nat := do
  match ← eat source ")" pos with
  | some pos => skipSemicolon source pos
  | none => fail source .missingClosingParenthesis pos

def parse (source : String) : Outcome (Value × Dialect) := do
  let start := skipSpace source (skipMark source)
  let inner ← eat source "Search.setIndex(" start
  let ((value, bare), pos) ← readValue source source.length maxDepth (inner.getD start)
  let pos := skipSpace source pos
  let pos ← if inner.isSome then closeCall source pos else pure pos
  if pos < source.utf8ByteSize then fail source .trailingCharacters pos
  else return (value, if bare then .legacy else .json)

end DocSearch.Literal.Bytes
