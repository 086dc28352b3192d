import DocSearch.Stem.Regions

/- The stemmer for German. A `u` or `y` between vowels counts as a consonant and is written large
meanwhile; umlauts are lost at the end. -/
namespace DocSearch.Stem.German

def isVowel (c : Char) : Bool := "aeiouyäöü".toList.contains c

def bearsS (c : Char) : Bool := "bdfghklmnrt".toList.contains c

def bearsSt (c : Char) : Bool := "bdfghklmnt".toList.contains c

def spellSharpS (word : List Char) : List Char :=
  word.flatMap fun c => if c = 'ß' then ['s', 's'] else [c]

def markLetter (before : Option Char) (c : Char) (next : Option Char) : Char :=
  if before.any isVowel && next.any isVowel then
    if c = 'u' then 'U' else if c = 'y' then 'Y' else c
  else c

def unmarkLetter (c : Char) : Char :=
  match c with
  | 'Y' => 'y'
  | 'U' => 'u'
  | 'ä' => 'a'
  | 'ö' => 'o'
  | 'ü' => 'u'
  | c => c

def dropInflection (first : Nat) (word : List Char) : List Char :=
  match longest? ["em", "ern", "er", "e", "en", "es", "s"] word with
  | none => word
  | some (ending, stem) =>
    if stem.length < first then word
    else match ending with
      | "s" => if lastIs bearsS stem then stem else word
      | "e" | "en" | "es" => if endsIn "niss" stem then stem.dropLast else stem
      | _ => stem

def dropComparison (first : Nat) (word : List Char) : List Char :=
  match longest? ["en", "er", "est", "st"] word with
  | none => word
  | some (ending, stem) =>
    if stem.length < first then word
    else if ending = "st" then
      if lastIs bearsSt stem && 4 ≤ stem.length then stem else word
    else stem

def dropDerivation (first second : Nat) (word : List Char) : List Char :=
  match longest? ["end", "ung", "ig", "ik", "isch", "lich", "heit", "keit"] word with
  | none => word
  | some (ending, stem) =>
    if stem.length < second then word
    else match ending with
      | "end" | "ung" =>
        match beforeFrom? second "ig" stem with
        | some shorter => if endsIn "e" shorter then stem else shorter
        | none => stem
      | "ig" | "ik" | "isch" => if endsIn "e" stem then word else stem
      | "lich" | "heit" => ((beforeFrom? first "er" stem).or (beforeFrom? first "en" stem)).getD stem
      | _ => dropLongest second ["lich", "ig"] stem

def stem (word : List Char) : List Char :=
  let word := rewriteLetters markLetter none (spellSharpS word)
  let first := firstRegion isVowel word
  let second := if word.length < 3 then word.length else (syllableRegions isVowel word).2
  (dropDerivation first second (dropComparison first (dropInflection first word))).map unmarkLetter

end DocSearch.Stem.German
