import DocSearch.Stem.Regions

/- The stemmer for Dutch. Accents are lost; an `i` between vowels and a `y` at the start or behind a
vowel count as consonants and are written large meanwhile. -/
namespace DocSearch.Stem.Dutch

def isVowel (c : Char) : Bool := "aeiouyè".toList.contains c

def plainLetter (c : Char) : Char :=
  match c with
  | 'ä' | 'á' => 'a'
  | 'ë' | 'é' => 'e'
  | 'ï' | 'í' => 'i'
  | 'ö' | 'ó' => 'o'
  | 'ü' | 'ú' => 'u'
  | c => c

def markLetter (before : Option Char) (c : Char) (next : Option Char) : Char :=
  if c = 'y' && (before.isNone || before.any isVowel) then 'Y'
  else if c = 'i' && before.any isVowel && next.any isVowel then 'I'
  else c

def unmarkLetter (c : Char) : Char := if c = 'Y' then 'y' else if c = 'I' then 'i' else c

def undouble (word : List Char) : List Char :=
  if endsIn "kk" word || endsIn "dd" word || endsIn "tt" word then word.dropLast else word

def afterEn? (first : Nat) (stem : List Char) : Option (List Char) :=
  if first ≤ stem.length && lastIs (!isVowel ·) stem && !endsIn "gem" stem then some (undouble stem)
  else none

def afterE? (first : Nat) (word : List Char) : Option (List Char) :=
  match beforeFrom? first "e" word with
  | some stem => if lastIs (!isVowel ·) stem then some (undouble stem) else none
  | none => none

def dropInflection (first : Nat) (word : List Char) : List Char :=
  match longest? ["heden", "en", "ene", "s", "se"] word with
  | none => word
  | some (ending, stem) =>
    match ending with
    | "heden" => if first ≤ stem.length then stem ++ "heid".toList else word
    | "en" | "ene" => (afterEn? first stem).getD word
    | _ =>
      if first ≤ stem.length && lastIs (fun c => !isVowel c && c != 'j') stem then stem else word

def dropHeid (first second : Nat) (word : List Char) : List Char :=
  match beforeFrom? second "heid" word with
  | none => word
  | some stem =>
    if endsIn "c" stem then word
    else ((before? "en" stem).bind (afterEn? first)).getD stem

/-- `lostE` says whether an `e` has gone before. -/
def dropDerivation (first second : Nat) (lostE : Bool) (word : List Char) : List Char :=
  match longest? ["end", "ing", "ig", "lijk", "baar", "bar"] word with
  | none => word
  | some (ending, stem) =>
    if stem.length < second then word
    else match ending with
      | "end" | "ing" =>
        match beforeFrom? second "ig" stem with
        | some shorter => if endsIn "e" shorter then undouble stem else shorter
        | none => undouble stem
      | "ig" => if endsIn "e" stem then word else stem
      | "lijk" => (afterE? first stem).getD stem
      | "baar" => stem
      | _ => if lostE then stem else word

def shortenVowel (word : List Char) : List Char :=
  match word.reverse with
  | c :: a :: b :: d :: rest =>
    if !isVowel c && c != 'I' && a = b && "aeou".toList.contains a && !isVowel d then
      (c :: a :: d :: rest).reverse
    else word
  | _ => word

def stem (word : List Char) : List Char :=
  let word := rewriteLetters markLetter none (word.map plainLetter)
  let (first, second) := syllableRegions isVowel word
  let first := max 3 first
  let inflected := dropInflection first word
  let lostE := afterE? first inflected
  let base := dropHeid first second (lostE.getD inflected)
  (shortenVowel (dropDerivation first second lostE.isSome base)).map unmarkLetter

end DocSearch.Stem.Dutch
