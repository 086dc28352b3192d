import DocSearch.Literal.Parser

/- The grammar of index text, with the value that each derivation denotes. The rules join pieces of
text and nothing in them depends on what stands around a piece. -/
namespace DocSearch.Literal

def Spaces (s : List Char) : Prop := ∀ c ∈ s, c = ' ' ∨ c = '\t' ∨ c = '\n' ∨ c = '\r'

def Digits (s : List Char) : Prop := s ≠ [] ∧ ∀ c ∈ s, c.isDigit = true

def HexDigit (c : Char) (n : Nat) : Prop := n < 16 ∧ (c = n.digitChar ∨ c = n.digitChar.toUpper)

/-- Four hexadecimal digits and the unit of UTF-16 that they spell. -/
inductive HexUnit : List Char → Nat → Prop
  | digits {a b c d : Char} {w x y z : Nat} (first : HexDigit a w) (second : HexDigit b x)
      (third : HexDigit c y) (fourth : HexDigit d z) :
      HexUnit [a, b, c, d] (w * 0x1000 + x * 0x100 + y * 0x10 + z)

def HighSurrogate (unit : Nat) : Prop := 0xD800 ≤ unit ∧ unit < 0xDC00

def LowSurrogate (unit : Nat) : Prop := 0xDC00 ≤ unit ∧ unit < 0xE000

def escapes : List (Char × Char) :=
  [('"', '"'), ('\\', '\\'), ('/', '/'), ('\'', '\''), ('b', '\x08'), ('f', '\x0c'), ('n', '\n'),
   ('r', '\r'), ('t', '\t')]

inductive StringText : List Char → List Char → Prop
  | done : StringText [] []
  | raw {c : Char} {s text : List Char} (printable : 0x20 ≤ c.toNat) (quote : c ≠ '"')
      (backslash : c ≠ '\\') (later : StringText s text) : StringText (c :: s) (c :: text)
  | escape {letter c : Char} {s text : List Char} (known : (letter, c) ∈ escapes)
      (later : StringText s text) : StringText ('\\' :: letter :: s) (c :: text)
  | unit {digits s text : List Char} {n : Nat} (hex : HexUnit digits n)
      (notHigh : ¬ HighSurrogate n) (notLow : ¬ LowSurrogate n) (later : StringText s text) :
      StringText ('\\' :: 'u' :: (digits ++ s)) (Char.ofNat n :: text)
  | pair {digits moreDigits s text : List Char} {high low : Nat} (hex : HexUnit digits high)
      (isHigh : HighSurrogate high) (moreHex : HexUnit moreDigits low) (isLow : LowSurrogate low)
      (later : StringText s text) :
      StringText ('\\' :: 'u' :: (digits ++ '\\' :: 'u' :: (moreDigits ++ s)))
        (Char.ofNat (0x10000 + (high - 0xD800) * 0x400 + (low - 0xDC00)) :: text)

inductive FractionText : List Char → Option (List Char) → Prop
  | absent : FractionText [] none
  | present {digits : List Char} (valid : Digits digits) :
      FractionText ('.' :: digits) (some digits)

inductive ExponentText : List Char → Option (Bool × List Char) → Prop
  | absent : ExponentText [] none
  | unsigned {e : Char} {digits : List Char} (letter : e = 'e' ∨ e = 'E') (valid : Digits digits) :
      ExponentText (e :: digits) (some (false, digits))
  | positive {e : Char} {digits : List Char} (letter : e = 'e' ∨ e = 'E') (valid : Digits digits) :
      ExponentText (e :: '+' :: digits) (some (false, digits))
  | negative {e : Char} {digits : List Char} (letter : e = 'e' ∨ e = 'E') (valid : Digits digits) :
      ExponentText (e :: '-' :: digits) (some (true, digits))

def signText (negative : Bool) : List Char := if negative then ['-'] else []

inductive NumberText : List Char → NumberToken → Prop
  | parts {negative : Bool} {whole f e : List Char} {fraction : Option (List Char)}
      {exponent : Option (Bool × List Char)} (valid : Digits whole)
      (fractional : FractionText f fraction) (scientific : ExponentText e exponent) :
      NumberText (signText negative ++ (whole ++ (f ++ e))) ⟨negative, whole, fraction, exponent⟩

namespace NumberToken

/-- Neither fraction nor exponent. -/
def IsWhole (token : NumberToken) : Prop := token.fraction = none ∧ token.exponent = none

def wholeValue (token : NumberToken) : Int :=
  if token.negative then -(decimalValue token.whole : Int) else decimalValue token.whole

def significand (token : NumberToken) : Nat :=
  decimalValue (token.whole ++ token.fraction.getD [])

def scale (token : NumberToken) : Int :=
  let shift : Int := match token.exponent with
    | none => 0
    | some (negative, digits) =>
      if negative then -(decimalValue digits : Int) else decimalValue digits
  shift - (token.fraction.getD []).length

/-- A whole number that 64 bits hold, with or without sign, is exact. Any other token is the double
nearest to it, which has to be finite. -/
inductive Denotes (token : NumberToken) : Number → Prop
  | exact (n : Integer) (whole : token.IsWhole) (same : n.val = token.wholeValue) :
      Denotes token (.integer n)
  | rounded (x : Double) (inexact : token.IsWhole → ∀ n : Integer, n.val ≠ token.wholeValue)
      (nearest : Double.ofDecimal? token.negative token.significand token.scale = some x) :
      Denotes token (.real x)

end NumberToken

def IsNameStart (c : Char) : Prop := c.isAlpha = true ∨ c = '_' ∨ c = '$'

def IsNameRest (c : Char) : Prop := c.isAlphanum = true ∨ c = '_' ∨ c = '$'

inductive KeyText : List Char → String → Bool → Prop
  | quoted {s text : List Char} (body : StringText s text) :
      KeyText ('"' :: (s ++ ['"'])) (String.ofList text) false
  | bare {c : Char} {s : List Char} (first : IsNameStart c) (later : ∀ d ∈ s, IsNameRest d) :
      KeyText (c :: s) (String.ofList (c :: s)) true

section
variable (item : List Char → Value → Bool → Prop)

inductive ItemsText : List Char → List Value → Bool → Prop
  | last {before s after : List Char} {v : Value} {bare : Bool} (spaceBefore : Spaces before)
      (first : item s v bare) (spaceAfter : Spaces after) :
      ItemsText (before ++ (s ++ after)) [v] bare
  | next {before s after more : List Char} {v : Value} {vs : List Value} {bare moreBare : Bool}
      (spaceBefore : Spaces before) (first : item s v bare) (spaceAfter : Spaces after)
      (later : ItemsText more vs moreBare) :
      ItemsText (before ++ (s ++ (after ++ ',' :: more))) (v :: vs) (bare || moreBare)

inductive MemberText : List Char → String × Value → Bool → Prop
  | parts {a k b c s d : List Char} {key : String} {v : Value} {keyBare bare : Bool}
      (spaceBeforeKey : Spaces a) (named : KeyText k key keyBare) (spaceAfterKey : Spaces b)
      (spaceBefore : Spaces c) (valued : item s v bare) (spaceAfter : Spaces d) :
      MemberText (a ++ (k ++ (b ++ ':' :: (c ++ (s ++ d))))) (key, v) (keyBare || bare)

inductive MembersText : List Char → List (String × Value) → Bool → Prop
  | last {s : List Char} {member : String × Value} {bare : Bool}
      (first : MemberText item s member bare) : MembersText s [member] bare
  | next {s more : List Char} {member : String × Value} {members : List (String × Value)}
      {bare moreBare : Bool} (first : MemberText item s member bare)
      (later : MembersText more members moreBare) :
      MembersText (s ++ ',' :: more) (member :: members) (bare || moreBare)

end

/-- The text of a value without space around it, the value, and whether some key in it stands
without quotes. No key comes twice in one object, however it is spelled. -/
inductive ValueText : List Char → Value → Bool → Prop
  | null : ValueText ['n', 'u', 'l', 'l'] .null false
  | yes : ValueText ['t', 'r', 'u', 'e'] (.bool true) false
  | no : ValueText ['f', 'a', 'l', 's', 'e'] (.bool false) false
  | number {s : List Char} {token : NumberToken} {n : Number} (spelled : NumberText s token)
      (meant : token.Denotes n) : ValueText s (.number n) false
  | string {s text : List Char} (body : StringText s text) :
      ValueText ('"' :: (s ++ ['"'])) (.string (String.ofList text)) false
  | emptyArray {s : List Char} (space : Spaces s) :
      ValueText ('[' :: (s ++ [']'])) (.array []) false
  | array {s : List Char} {vs : List Value} {bare : Bool} (items : ItemsText ValueText s vs bare) :
      ValueText ('[' :: (s ++ [']'])) (.array vs) bare
  | emptyObject {s : List Char} (space : Spaces s) :
      ValueText ('\x7b' :: (s ++ ['\x7d'])) (.object []) false
  | object {s : List Char} {written : List (String × Value)} {bare : Bool}
      (members : MembersText ValueText s written bare) (distinct : (written.map Prod.fst).Nodup) :
      ValueText ('\x7b' :: (s ++ ['\x7d'])) (.object (KeyMap.ofList written).entries) bare

inductive EndText : List Char → Prop
  | space {s : List Char} (space : Spaces s) : EndText s
  | semicolon {before after : List Char} (spaceBefore : Spaces before) (spaceAfter : Spaces after) :
      EndText (before ++ ';' :: after)

/-- What may stand before the value or the call: a byte order mark and space. -/
inductive StartText : List Char → Prop
  | plain {s : List Char} (space : Spaces s) : StartText s
  | marked {s : List Char} (space : Spaces s) : StartText ('\ufeff' :: s)

inductive IndexText : List Char → Value → Bool → Prop
  | alone {start s after : List Char} {v : Value} {bare : Bool} (before : StartText start)
      (value : ValueText s v bare) (spaceAfter : Spaces after) :
      IndexText (start ++ (s ++ after)) v bare
  | call {start before s after ending : List Char} {v : Value} {bare : Bool}
      (begins : StartText start) (spaceBefore : Spaces before) (value : ValueText s v bare)
      (spaceAfter : Spaces after) (ends : EndText ending) :
      IndexText
        (start ++ ("Search.setIndex(".toList ++ (before ++ (s ++ (after ++ ')' :: ending))))) v bare

end DocSearch.Literal
