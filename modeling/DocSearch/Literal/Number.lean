import DocSearch.Literal.Basic
import DocSearch.Literal.Error
import DocSearch.Decimal.Shortest

/- Numbers in index text: the token that is read, the number it stands for and the text written. -/
namespace DocSearch.Literal

structure NumberToken where
  negative : Bool
  whole : List Char
  fraction : Option (List Char)
  exponent : Option (Bool × List Char)
deriving DecidableEq, Repr

def decimalValue (digits : List Char) : Nat := Nat.ofDigitChars 10 digits 0

/-- A token without fraction and exponent is exact if 64 bits hold it; every other one is the
nearest double. -/
def NumberToken.number? (token : NumberToken) : Option Number :=
  let rounded : Option Number :=
    let fraction := token.fraction.getD []
    let shift : Int := match token.exponent with
      | none => 0
      | some (negative, digits) =>
        if negative then -(decimalValue digits : Int) else decimalValue digits
    (Double.ofDecimal? token.negative (decimalValue (token.whole ++ fraction))
      (shift - fraction.length)).map .real
  if token.fraction.isNone && token.exponent.isNone then
    let magnitude : Int := decimalValue token.whole
    match Integer.ofInt? (if token.negative then -magnitude else magnitude) with
    | some n => some (.integer n)
    | none => rounded
  else rounded

def takeDigits (flaw : Flaw) (s : List Char) : Except Fault (List Char × List Char) :=
  let digits := s.takeWhile Char.isDigit
  if digits.isEmpty then .error ⟨flaw, s⟩ else .ok (digits, s.dropWhile Char.isDigit)

def takeSign : List Char → Bool × List Char
  | '-' :: rest => (true, rest)
  | s => (false, s)

def takeFraction : List Char → Except Fault (Option (List Char) × List Char)
  | '.' :: rest => (takeDigits .missingFractionDigits rest).map fun (digits, rest) => (some digits, rest)
  | s => .ok (none, s)

def takeExponent : List Char → Except Fault (Option (Bool × List Char) × List Char)
  | e :: rest =>
    if e = 'e' || e = 'E' then
      let (negative, digits) := match rest with
        | '+' :: rest => (false, rest)
        | rest => takeSign rest
      (takeDigits .missingExponentDigits digits).map fun (digits, rest) => (some (negative, digits), rest)
    else .ok (none, e :: rest)
  | [] => .ok (none, [])

def takeNumberToken (s : List Char) : Except Fault (NumberToken × List Char) := do
  let (negative, s) := takeSign s
  let (whole, s) ← takeDigits .missingDigits s
  let (fraction, s) ← takeFraction s
  let (exponent, s) ← takeExponent s
  return (⟨negative, whole, fraction, exponent⟩, s)

def takeNumber (s : List Char) : Except Fault (Number × List Char) := do
  let (token, rest) ← takeNumberToken s
  match token.number? with
  | some n => return (n, rest)
  | none => throw ⟨.numberOutOfRange, s⟩

def renderNumber : Number → List Char
  | .integer n =>
    match n.val with
    | .ofNat m => Nat.toDigits 10 m
    | .negSucc m => '-' :: Nat.toDigits 10 (m + 1)
  | .real x => x.text

end DocSearch.Literal
