import DocSearch.Proofs.Literal.Grammar

/- The grammar of strict JSON, without space between the parts of a text, and the value that each
derivation denotes. The reader takes far more than this grammar derives. -/
namespace DocSearch.Literal

def jsonEscapes : List (Char × Char) :=
  [('"', '"'), ('\\', '\\'), ('/', '/'), ('b', '\x08'), ('f', '\x0c'), ('n', '\n'), ('r', '\r'),
   ('t', '\t')]

/-- What stands between the quotes of a string, and the characters of the string. A character
outside the basic plane is spelled by two surrogates, and no surrogate stands alone. -/
inductive JsonChars : List Char → List Char → Prop
  | done : JsonChars [] []
  | raw {c : Char} {s text : List Char} (printable : 0x20 ≤ c.toNat) (quote : c ≠ '"')
      (backslash : c ≠ '\\') (later : JsonChars s text) : JsonChars (c :: s) (c :: text)
  | escape {letter c : Char} {s text : List Char} (known : (letter, c) ∈ jsonEscapes)
      (later : JsonChars s text) : JsonChars ('\\' :: letter :: s) (c :: text)
  | unit {digits s text : List Char} {n : Nat} (hex : HexUnit digits n)
      (notHigh : ¬ HighSurrogate n) (notLow : ¬ LowSurrogate n) (later : JsonChars s text) :
      JsonChars ('\\' :: 'u' :: (digits ++ s)) (Char.ofNat n :: text)
  | pair {digits moreDigits s text : List Char} {high low : Nat} (hex : HexUnit digits high)
      (isHigh : HighSurrogate high) (moreHex : HexUnit moreDigits low) (isLow : LowSurrogate low)
      (later : JsonChars s text) :
      JsonChars ('\\' :: 'u' :: (digits ++ '\\' :: 'u' :: (moreDigits ++ s)))
        (Char.ofNat (0x10000 + (high - 0xD800) * 0x400 + (low - 0xDC00)) :: text)

/-- A number whose whole part does not begin with a zero that other digits follow. -/
structure JsonNumber (s : List Char) (token : NumberToken) : Prop where
  spelled : NumberText s token
  leading : token.whole.head? = some '0' → token.whole = ['0']

section
variable {α : Type} (part : List Char → α → Prop)

inductive Separated : List Char → List α → Prop
  | last {s : List Char} {a : α} (first : part s a) : Separated s [a]
  | next {s more : List Char} {a : α} {as : List α} (first : part s a)
      (later : Separated more as) : Separated (s ++ ',' :: more) (a :: as)

end

section
variable (item : List Char → Value → Prop)

inductive JsonMember : List Char → String × Value → Prop
  | parts {k text s : List Char} {v : Value} (named : JsonChars k text) (valued : item s v) :
      JsonMember ('"' :: (k ++ '"' :: ':' :: s)) (String.ofList text, v)

end

/-- The text of a value, and the value. No key comes twice in one object, and the members of each
object stand in an order that `arranged` permits. -/
inductive JsonText (arranged : List (String × Value) → Prop) : List Char → Value → Prop
  | null : JsonText arranged ['n', 'u', 'l', 'l'] .null
  | yes : JsonText arranged ['t', 'r', 'u', 'e'] (.bool true)
  | no : JsonText arranged ['f', 'a', 'l', 's', 'e'] (.bool false)
  | number {s : List Char} {token : NumberToken} {n : Number} (number : JsonNumber s token)
      (meant : token.Denotes n) : JsonText arranged s (.number n)
  | string {s text : List Char} (body : JsonChars s text) :
      JsonText arranged ('"' :: (s ++ ['"'])) (.string (String.ofList text))
  | emptyArray : JsonText arranged ['[', ']'] (.array [])
  | array {s : List Char} {vs : List Value} (items : Separated (JsonText arranged) s vs) :
      JsonText arranged ('[' :: (s ++ [']'])) (.array vs)
  | emptyObject : JsonText arranged ['\x7b', '\x7d'] (.object [])
  | object {s : List Char} {written : List (String × Value)}
      (members : Separated (JsonMember (JsonText arranged)) s written)
      (distinct : (written.map Prod.fst).Nodup) (order : arranged written) :
      JsonText arranged ('\x7b' :: (s ++ ['\x7d'])) (.object (KeyMap.ofList written).entries)

theorem JsonChars.stringText {s text : List Char} (body : JsonChars s text) :
    StringText s text := by
  induction body with
  | done => exact .done
  | raw printable quote backslash _ ih => exact .raw printable quote backslash ih
  | @escape letter c s text known _ ih =>
    have common : ∀ escape ∈ jsonEscapes, escape ∈ escapes := by decide
    exact .escape (common (letter, c) known) ih
  | unit hex notHigh notLow _ ih => exact .unit hex notHigh notLow ih
  | pair hex isHigh moreHex isLow _ ih => exact .pair hex isHigh moreHex isLow ih

end DocSearch.Literal
