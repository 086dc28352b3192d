import DocSearch.Stem.Regions

/- The stemmer for Portuguese. A nasal vowel is a vowel and a consonant, which is written as a tilde
meanwhile. -/
namespace DocSearch.Stem.Portuguese

def isVowel (c : Char) : Bool := "aeiouáéíóúâêô".toList.contains c

def splitNasals (word : List Char) : List Char :=
  word.flatMap fun c => if c = 'ã' then ['a', '~'] else if c = 'õ' then ['o', '~'] else [c]

def joinNasals : List Char → List Char
  | 'a' :: '~' :: rest => 'ã' :: joinNasals rest
  | 'o' :: '~' :: rest => 'õ' :: joinNasals rest
  | c :: rest => c :: joinNasals rest
  | [] => []

def nounEndings : List String :=
  ["eza", "ezas", "ico", "ica", "icos", "icas", "ismo", "ismos", "ável", "ível", "ista", "istas",
   "oso", "osa", "osos", "osas", "amento", "amentos", "imento", "imentos", "adora", "ador", "aça~o",
   "adoras", "adores", "aço~es", "ante", "antes", "ância"]

def replaced : List (String × String) :=
  [("logia", "log"), ("logias", "log"), ("uça~o", "u"), ("uço~es", "u"), ("ência", "ente"),
   ("ências", "ente")]

def standardEndings : List String :=
  nounEndings ++ replaced.map Prod.fst ++
    ["amente", "mente", "idade", "idades", "iva", "ivo", "ivas", "ivos", "ira", "iras"]

def dropAdverbial (second : Nat) (stem : List Char) : List Char :=
  match longest? ["iv", "os", "ic", "ad"] stem with
  | none => stem
  | some (ending, shorter) =>
    if shorter.length < second then stem
    else if ending = "iv" then dropFrom second "at" shorter
    else shorter

def dropStandard? (r : Regions) (word : List Char) : Option (List Char) :=
  match longest? standardEndings word with
  | none => none
  | some ("amente", stem) =>
    if stem.length < r.first then none else some (dropAdverbial r.second stem)
  | some ("ira", stem) | some ("iras", stem) =>
    if r.verbal ≤ stem.length && endsIn "e" stem then some (stem ++ "ir".toList) else none
  | some (ending, stem) =>
    if stem.length < r.second then none
    else match replaced.lookup ending with
      | some new => some (stem ++ new.toList)
      | none =>
        match ending with
        | "mente" => some (dropLongest r.second ["ante", "avel", "ível"] stem)
        | "idade" | "idades" => some (dropLongest r.second ["abil", "ic", "iv"] stem)
        | "iva" | "ivo" | "ivas" | "ivos" => some (dropFrom r.second "at" stem)
        | _ => some stem

def verbEndings : List String :=
  ["ada", "ida", "ia", "aria", "eria", "iria", "ará", "ara", "erá", "era", "irá", "ava", "asse",
   "esse", "isse", "aste", "este", "iste", "ei", "arei", "erei", "irei", "am", "iam", "ariam",
   "eriam", "iriam", "aram", "eram", "iram", "avam", "em", "arem", "erem", "irem", "assem", "essem",
   "issem", "ado", "ido", "ando", "endo", "indo", "ara~o", "era~o", "ira~o", "ar", "er", "ir", "as",
   "adas", "idas", "ias", "arias", "erias", "irias", "arás", "aras", "erás", "eras", "irás", "avas",
   "es", "ardes", "erdes", "irdes", "ares", "eres", "ires", "asses", "esses", "isses", "astes",
   "estes", "istes", "is", "ais", "eis", "íeis", "aríeis", "eríeis", "iríeis", "áreis", "areis",
   "éreis", "ereis", "íreis", "ireis", "ásseis", "ésseis", "ísseis", "áveis", "ados", "idos", "ámos",
   "amos", "íamos", "aríamos", "eríamos", "iríamos", "áramos", "éramos", "íramos", "ávamos", "emos",
   "aremos", "eremos", "iremos", "ássemos", "êssemos", "íssemos", "imos", "armos", "ermos", "irmos",
   "eu", "iu", "ou", "ira", "iras"]

def dropVerb? (r : Regions) (word : List Char) : Option (List Char) :=
  (longestFrom? r.verbal verbEndings word).map Prod.snd

def dropCi (r : Regions) (word : List Char) : List Char :=
  match beforeFrom? r.verbal "i" word with
  | some stem => if endsIn "c" stem then stem else word
  | none => word

def dropResidue (r : Regions) (word : List Char) : List Char :=
  dropLongest r.verbal ["os", "a", "i", "o", "á", "í", "ó"] word

def dropForm (r : Regions) (word : List Char) : List Char :=
  match longest? ["e", "é", "ê", "ç"] word with
  | none => word
  | some ("ç", stem) => stem ++ ['c']
  | some (_, stem) =>
    if stem.length < r.verbal then word
    else if (endsIn "gu" stem || endsIn "ci" stem) && r.verbal < stem.length then stem.dropLast
    else stem

def stem (word : List Char) : List Char :=
  let word := splitNasals word
  let r := romanceRegions isVowel word
  let word := match (dropStandard? r word).or (dropVerb? r word) with
    | some shorter => dropCi r shorter
    | none => dropResidue r word
  joinNasals (dropForm r word)

end DocSearch.Stem.Portuguese
