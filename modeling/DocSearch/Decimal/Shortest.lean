import DocSearch.Decimal.Double

/- The shortest decimal digits that read back as a given number, and their layout in index text. -/
namespace DocSearch.Magnitude

def leadingExponent (num den : Nat) : Int :=
  if den ≤ num then Int.ofNat ((Nat.toDigits 10 (num / den)).length - 1)
  else -Int.ofNat (Nat.toDigits 10 ((den - 1) / num)).length

def inUnits (num den : Nat) (exponent : Int) : Nat × Nat :=
  match exponent with
  | .ofNat e => (num, den * Nat.pow 10 e)
  | .negSucc e => (num * Nat.pow 10 (e + 1), den)

/-- The two ends of the interval of quotients that round to the number, in quarters of its last
binary place. Below a power of two the numbers lie twice as dense. -/
def quarterBounds (x : Magnitude) : Nat × Nat :=
  let centre := 4 * significand x
  if significand x = steps && steps < x then (centre - 1, centre + 2)
  else (centre - 2, centre + 2)

/-- Whether `n * 10 ^ exponent` rounds to the number: inside the interval, or at an end of it when
the significand is even. Both sides are scaled to whole numbers. -/
def readsBack (x : Magnitude) (exponent : Int) (n : Nat) : Bool :=
  let units := inUnits (ratio x).1 (ratio x).2 exponent
  let bounds := quarterBounds x
  let place := 4 * significand x * n * units.2
  let low := bounds.1 * units.1
  let high := bounds.2 * units.1
  if significand x % 2 = 0 then low ≤ place && place ≤ high else low < place && place < high

/-- With `count` digits: the nearer of the two neighbours on the decimal grid that reads back. -/
def digitsOfCount? (x : Magnitude) (lead : Int) (count : Nat) : Option (Nat × Int) :=
  let exponent := lead - Int.ofNat (count - 1)
  let units := inUnits (ratio x).1 (ratio x).2 exponent
  let below := units.1 / units.2
  let near := nearest units.1 units.2
  let far := if near = below then below + 1 else below
  if readsBack x exponent near then some (near, exponent)
  else if readsBack x exponent far then some (far, exponent)
  else none

/-- Digits and exponent of the unit of the last digit; seventeen digits always suffice. -/
def shortest (x : Magnitude) : Nat × Int :=
  if x = 0 then (0, 0) else
    let lead := leadingExponent (ratio x).1 (ratio x).2
    match (List.range 17).findSome? (fun i => digitsOfCount? x lead (i + 1)) with
    | some found => found
    | none => (0, 0)

def significantDigits (n : Nat) : List Char :=
  match Nat.toDigits 10 n with
  | [] => []
  | d :: ds => d :: (ds.reverse.dropWhile (· == '0')).reverse

def zeros (n : Nat) : List Char := List.replicate n '0'

/-- Positional for exponents from -5 to 15, always with a point; scientific with a signed exponent
otherwise. `digits` begins with a digit of weight `10 ^ lead`. -/
def layout (digits : List Char) (lead : Int) : List Char :=
  if -5 ≤ lead && lead < 16 then
    match lead with
    | .negSucc e => ['0', '.'] ++ zeros e ++ digits
    | .ofNat e =>
      let whole := digits.take (e + 1)
      let fraction := digits.drop (e + 1)
      whole ++ zeros (e + 1 - whole.length) ++ ['.'] ++ (if fraction.isEmpty then ['0'] else fraction)
  else
    let fraction := digits.drop 1
    let mark := if lead < 0 then ['e', '-'] else ['e', '+']
    digits.take 1 ++ (if fraction.isEmpty then [] else '.' :: fraction) ++ mark ++
      Nat.toDigits 10 lead.natAbs

end DocSearch.Magnitude

namespace DocSearch.Double

def text (x : Double) : List Char :=
  let (n, exponent) := Magnitude.shortest x.magnitude
  let lead := exponent + Int.ofNat (Nat.toDigits 10 n).length - 1
  (if x.negative then ['-'] else []) ++ Magnitude.layout (Magnitude.significantDigits n) lead

end DocSearch.Double
