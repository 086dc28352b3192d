import DocSearch.Literal.Parser
import DocSearch.Toml.Table

/- The values of a TOML document that stand without brackets and quotes. Whole numbers are read; of
the others it is only told whether they may stand there, since no setting takes one. -/
namespace DocSearch.Toml

/-- Whether underscores stand where a group of digits ends and the next one begins. How the last
group ends is not looked at, and a sign may be a group of its own. -/
def areGroups (isDigit : Char → Bool) (s : List Char) : Bool :=
  let groups := Text.split (· == '_') s
  groups.dropLast.all (fun group => group.length == 1 || group.getLast?.any isDigit) &&
    groups.tail.all (fun group => group.head?.any isDigit)

def isHexDigit (c : Char) : Bool := (Literal.hexDigitValue? c).isSome

def isGroupedDigit (c : Char) : Bool := c.isDigit || c == '_'

def skipSign : List Char → List Char
  | '+' :: rest | '-' :: rest => rest
  | s => s

def numberIn (base : Nat) (digits : List Char) : Int :=
  (digits.filter (· ≠ '_')).foldl (fun n c => n * base + ((Literal.hexDigitValue? c).getD 0 : Nat))
    (0 : Nat)

def isForeignToGroups (c : Char) : Bool := c == ' ' || c == '.' || c == 'e' || c == 'E'

/-- Text that stands for a whole decimal number: digits without a leading zero, or such digits up to
an underscore with groups behind it. Whether the last group holds digits alone is left to those who
ask for the number. -/
def isDecimal (s : List Char) : Bool :=
  let unsigned := skipSign s
  let rest := unsigned.dropWhile Char.isDigit
  !unsigned.isEmpty && (unsigned.head? ≠ some '0' || unsigned.length = 1) &&
    (rest.isEmpty || (rest.head? = some '_' && !rest.any isForeignToGroups)) &&
    areGroups isHexDigit s

def decimal (s : List Char) : Toml :=
  let n := numberIn 10 (skipSign s)
  if !(skipSign s).all isGroupedDigit then .other
  else if s.head? = some '-' then .number (-n)
  else .number n

def based? (base : Nat) (isDigit : Char → Bool) (digits : List Char) : Option Toml :=
  if digits.all (fun c => isDigit c || c == '_') && areGroups isDigit digits then
    some (if digits.isEmpty then .other else .number (numberIn base digits))
  else none

def whole? : List Char → Option Toml
  | '0' :: 'x' :: digits => based? 16 isHexDigit digits
  | '0' :: 'o' :: digits => based? 8 (fun c => '0' ≤ c && c ≤ '7') digits
  | '0' :: 'b' :: digits => based? 2 (fun c => c == '0' || c == '1') digits
  | s => if isDecimal s then some (decimal s) else none

def isFlag (s : List Char) : Bool := s == "true".toList || s == "false".toList

def takeDigits? (s : List Char) : Option (List Char) :=
  if (s.takeWhile isGroupedDigit).any Char.isDigit then some (s.dropWhile isGroupedDigit) else none

def hasLeadingZero (digits : List Char) : Bool :=
  digits.head? = some '0' && 1 < (digits.filter Char.isDigit).length

def isExponent : List Char → Bool
  | [] => true
  | c :: rest => (c == 'e' || c == 'E') && takeDigits? (skipSign rest) == some []

def isFraction (s : List Char) : Bool :=
  let unsigned := skipSign s
  unsigned == "inf".toList || unsigned == "nan".toList ||
    (!hasLeadingZero (unsigned.takeWhile isGroupedDigit) && areGroups Char.isDigit s &&
      match takeDigits? unsigned with
      | some ('.' :: rest) => (takeDigits? rest).any isExponent
      | some (c :: rest) => isExponent (c :: rest)
      | _ => false)

def takeField (count low high : Nat) (s : List Char) : Option (Nat × List Char) := do
  let digits := s.take count
  if digits.length ≠ count || !digits.all Char.isDigit then failure
  let n := (numberIn 10 digits).toNat
  if low ≤ n && n ≤ high then some (n, s.drop count) else none

def daysIn (year month : Nat) : Nat :=
  if month = 2 then
    if year % 4 = 0 && (year % 100 ≠ 0 || year % 400 = 0) then 29 else 28
  else if [4, 6, 9, 11].contains month then 30
  else 31

def takeDate (s : List Char) : Option (List Char) := do
  let (year, rest) ← takeField 4 0 9999 s
  let '-' :: rest := rest | failure
  let (month, rest) ← takeField 2 1 12 rest
  let '-' :: rest := rest | failure
  let (_, rest) ← takeField 2 1 (daysIn year month) rest
  return rest

def takeSplitSecond : List Char → Option (List Char)
  | '.' :: rest => if rest.head?.any Char.isDigit then some (rest.dropWhile Char.isDigit) else none
  | s => some s

/-- A time of day as in 07:32:00.5; the seconds may be missing, and the last one of a minute may be
a leap second. -/
def takeTime (s : List Char) : Option (List Char) := do
  let (_, rest) ← takeField 2 0 23 s
  let ':' :: rest := rest | failure
  let (_, rest) ← takeField 2 0 59 rest
  match rest with
  | ':' :: rest =>
    let (_, rest) ← takeField 2 0 60 rest
    takeSplitSecond rest
  | rest => return rest

def isOffset : List Char → Bool
  | [] | ['Z'] | ['z'] => true
  | '+' :: rest | '-' :: rest =>
    match takeField 2 0 23 rest with
    | some (_, ':' :: rest) => (takeField 2 0 59 rest).any (·.2.isEmpty)
    | _ => false
  | _ => false

def isMoment (s : List Char) : Bool :=
  match takeDate s with
  | none => (takeTime s).any (·.isEmpty)
  | some [] => true
  | some (c :: rest) => (c == 'T' || c == 't' || c == ' ') && (takeTime rest).any isOffset

def scalar? (s : List Char) : Option Toml :=
  match whole? s with
  | some n => some n
  | none => if isFlag s || isFraction s || isMoment s then some .other else none

def endsScalar (c : Char) : Bool := "=,[]\x7b\x7d \t#\r\n".toList.contains c

def isBlank (c : Char) : Bool := c == ' ' || c == '\t'

/-- The text of a value and what follows it. Blanks belong to the text if more of it comes behind
them. -/
def spanScalar : (fuel : Nat) → List Char → List Char × List Char
  | 0, s => ([], s)
  | fuel + 1, s =>
    let text := s.takeWhile (!endsScalar ·)
    let rest := s.dropWhile (!endsScalar ·)
    match rest.dropWhile isBlank with
    | [] => (text, rest)
    | c :: more =>
      if text.isEmpty || endsScalar c || c == '"' || c == '\'' then (text, rest)
      else
        let (next, rest') := spanScalar fuel (c :: more)
        (text ++ rest.takeWhile isBlank ++ next, rest')

end DocSearch.Toml
