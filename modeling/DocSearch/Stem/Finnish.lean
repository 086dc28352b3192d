import DocSearch.Stem.Regions

/- The stemmer for Finnish: particles, possessives, case endings and plurals go one after another. -/
namespace DocSearch.Stem.Finnish

def isVowel (c : Char) : Bool := "aeiouyäö".toList.contains c

def isPluralVowel (c : Char) : Bool := "aeiouäö".toList.contains c

def isParticleEnd (c : Char) : Bool := isVowel c || c = 'n' || c = 't'

def dropParticle (first second : Nat) (word : List Char) : List Char :=
  match longestFrom? first ["kin", "kaan", "kään", "ko", "kö", "han", "hän", "pa", "pä", "sti"] word with
  | none => word
  | some ("sti", stem) => if second ≤ stem.length then stem else word
  | some (_, stem) => if lastIs isParticleEnd stem then stem else word

def endsInAny (endings : List String) (word : List Char) : Bool := endings.any (endsIn · word)

def dropPossessive (first : Nat) (word : List Char) : List Char :=
  match longestFrom? first ["si", "ni", "nsa", "nsä", "mme", "nne", "an", "än", "en"] word with
  | none => word
  | some (ending, stem) =>
    match ending with
    | "si" => if endsIn "k" stem then word else stem
    | "ni" =>
      match before? "kse" stem with
      | some front => front ++ "ksi".toList
      | none => stem
    | "an" => if endsInAny ["ta", "ssa", "sta", "lla", "lta", "na"] stem then stem else word
    | "än" => if endsInAny ["tä", "ssä", "stä", "llä", "ltä", "nä"] stem then stem else word
    | "en" => if endsInAny ["lle", "ine"] stem then stem else word
    | _ => stem

def endsLong (word : List Char) : Bool := endsInAny ["aa", "ee", "ii", "oo", "uu", "ää", "öö"] word

def endsPlural (word : List Char) : Bool := endsIn "i" word && lastIs isPluralVowel word.dropLast

/-- Whether an ending may follow a stem. What it looks at stands in the first region. -/
def mayFollow (first : Nat) (ending : String) (stem : List Char) : Bool :=
  match ending with
  | "siin" | "den" | "tten" => first + 2 ≤ stem.length && endsPlural stem
  | "seen" => first + 2 ≤ stem.length && endsLong stem
  | _ => true

def caseEndings : List String :=
  ["han", "hen", "hin", "hon", "hän", "hön", "siin", "seen", "den", "tten", "n", "a", "ä", "tta",
   "ttä", "ta", "tä", "ssa", "ssä", "sta", "stä", "lla", "llä", "lta", "ltä", "lle", "na", "nä",
   "ksi", "ine"]

def dropCase? (first : Nat) (word : List Char) : Option (List Char) :=
  let possible := caseEndings.filter fun ending =>
    match beforeFrom? first ending word with
    | some stem => mayFollow first ending stem
    | none => false
  match longest? possible word with
  | none => none
  | some (ending, stem) =>
    let only (condition : Bool) := if condition then some stem else none
    match ending with
    | "han" => only (endsIn "a" stem)
    | "hen" => only (endsIn "e" stem)
    | "hin" => only (endsIn "i" stem)
    | "hon" => only (endsIn "o" stem)
    | "hän" => only (endsIn "ä" stem)
    | "hön" => only (endsIn "ö" stem)
    | "n" => some (if endsLong stem || endsIn "ie" stem then stem.dropLast else stem)
    | "a" | "ä" => only (lastIs isVowel stem && lastIs (!isVowel ·) stem.dropLast)
    | "tta" | "ttä" => only (endsIn "e" stem)
    | _ => some stem

def dropOther (second : Nat) (word : List Char) : List Char :=
  let comparatives := ["mpi", "mpa", "mpä", "mmi", "mma", "mmä"]
  let others := ["impi", "impa", "impä", "immi", "imma", "immä", "eja", "ejä"]
  match longestFrom? second (comparatives ++ others) word with
  | none => word
  | some (ending, stem) =>
    if comparatives.contains ending && endsIn "po" stem then word else stem

def dropIPlural (first : Nat) (word : List Char) : List Char :=
  match longestFrom? first ["i", "j"] word with
  | some (_, stem) => stem
  | none => word

def dropTPlural (first second : Nat) (word : List Char) : List Char :=
  match beforeFrom? first "t" word with
  | none => word
  | some stem =>
    if first < stem.length && lastIs isVowel stem then
      match longestFrom? second ["mma", "imma"] stem with
      | some ("mma", front) => if endsIn "po" front then stem else front
      | some (_, front) => front
      | none => stem
    else word

def dropLastIf (first : Nat) (test : Char → Char → Bool) (word : List Char) : List Char :=
  match word.reverse with
  | c :: d :: _ => if first + 2 ≤ word.length && test d c then word.dropLast else word
  | _ => word

def undoubleConsonant (word : List Char) : List Char :=
  let vowels := word.reverse.takeWhile isVowel
  match word.reverse.dropWhile isVowel with
  | c :: d :: rest => if c = d then (d :: rest).reverse ++ vowels.reverse else word
  | _ => word

def tidy (first : Nat) (word : List Char) : List Char :=
  let word := dropLastIf first (fun d c => endsLong [d, c]) word
  let word := dropLastIf first (fun d c => "aäei".toList.contains c && !isVowel d) word
  let word := dropLastIf first (fun d c => c = 'j' && (d = 'o' || d = 'u')) word
  let word := dropLastIf first (fun d c => c = 'o' && d = 'j') word
  undoubleConsonant word

def stem (word : List Char) : List Char :=
  let (first, second) := syllableRegions isVowel word
  let word := dropPossessive first (dropParticle first second word)
  let word := match dropCase? first word with
    | some stem => dropIPlural first (dropOther second stem)
    | none => dropTPlural first second (dropOther second word)
  tidy first word

end DocSearch.Stem.Finnish
