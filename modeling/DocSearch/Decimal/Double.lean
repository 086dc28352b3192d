/- Finite binary floating-point numbers of 64 bits, kept as a sign and a rank among the magnitudes,
and the rounding of exact quotients to the nearest of them. -/
namespace DocSearch

/-- Magnitudes are numbered upwards from zero, so they compare as their numbers do. -/
abbrev Magnitude := Nat

namespace Magnitude

def steps : Nat := 0x10000000000000

/-- The value is `significand * 2 ^ exponent`. -/
def significand (x : Magnitude) : Nat := if x < steps then x else steps + x % steps

def exponent (x : Magnitude) : Int := Int.ofNat (x / steps - 1) - 1074

def ratio (x : Magnitude) : Nat × Nat :=
  match exponent x with
  | .ofNat e => (significand x * Nat.pow 2 e, 1)
  | .negSucc e => (significand x, Nat.pow 2 (e + 1))

/-- The whole number nearest to `num / den`; a half goes to the even neighbour. -/
def nearest (num den : Nat) : Nat :=
  let whole := num / den
  let twice := 2 * (num % den)
  if twice < den then whole
  else if den < twice then whole + 1
  else whole + whole % 2

def scaled (num den : Nat) (exponent : Int) : Nat × Nat :=
  match exponent with
  | .ofNat e => (num, den * Nat.pow 2 e)
  | .negSucc e => (num * Nat.pow 2 (e + 1), den)

def ofRatio (num den : Nat) : Magnitude :=
  if num = 0 then 0 else
    let low : Int := max (Int.ofNat num.log2 - Int.ofNat den.log2 - 53) (-1074)
    let atLow := scaled num den low
    let exponent := if atLow.2 * (2 * steps) ≤ atLow.1 then low + 1 else low
    let fraction := scaled num den exponent
    (exponent + 1074).toNat * steps + nearest fraction.1 fraction.2

def add (x y : Magnitude) : Magnitude :=
  let (a, b) := ratio x
  let (c, d) := ratio y
  ofRatio (a * d + c * b) (b * d)

def sub (x y : Magnitude) : Magnitude :=
  let (a, b) := ratio x
  let (c, d) := ratio y
  ofRatio (a * d - c * b) (b * d)

def mul (x y : Magnitude) : Magnitude :=
  let (a, b) := ratio x
  let (c, d) := ratio y
  ofRatio (a * c) (b * d)

def limit : Nat := 0x7FF0000000000000

def fixedText (places : Nat) (x : Magnitude) : String :=
  let units := nearest ((ratio x).1 * Nat.pow 10 places) (ratio x).2
  let fraction := Nat.toDigits 10 (units % Nat.pow 10 places)
  toString (units / Nat.pow 10 places) ++ "." ++
    String.ofList (List.replicate (places - fraction.length) '0' ++ fraction)

end Magnitude

/-- A finite number: a sign and a magnitude. Zero has both signs. -/
structure Double where
  negative : Bool
  magnitude : Magnitude
  finite : magnitude < Magnitude.limit
deriving DecidableEq

namespace Double

def ofRatio? (negative : Bool) (num den : Nat) : Option Double :=
  let magnitude := Magnitude.ofRatio num den
  if finite : magnitude < Magnitude.limit then some ⟨negative, magnitude, finite⟩ else none

/-- The nearest number to `significand * 10 ^ exponent`. The two tests on the decimal point keep
the powers small: what they turn away is zero or beyond the largest number. -/
def ofDecimal? (negative : Bool) (significand : Nat) (exponent : Int) : Option Double :=
  if significand = 0 then ofRatio? negative 0 1 else
    let point := exponent + Int.ofNat (Nat.toDigits 10 significand).length
    if 310 < point then none
    else if point < -330 then ofRatio? negative 0 1
    else match exponent with
      | .ofNat e => ofRatio? negative (significand * Nat.pow 10 e) 1
      | .negSucc e => ofRatio? negative significand (Nat.pow 10 (e + 1))

end Double
end DocSearch
