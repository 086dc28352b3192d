import DocSearch.Stem.Regions

/- The stemmer for Italian. A `u` behind `q`, and a `u` or `i` between vowels, count as consonants
and are written large meanwhile. -/
namespace DocSearch.Stem.Italian

def isVowel (c : Char) : Bool := "aeiouàèìòù".toList.contains c

def graveLetter (c : Char) : Char :=
  match c with
  | 'á' => 'à'
  | 'é' => 'è'
  | 'í' => 'ì'
  | 'ó' => 'ò'
  | 'ú' => 'ù'
  | c => c

def markQu : List Char → List Char
  | 'q' :: 'u' :: rest => 'q' :: 'U' :: markQu rest
  | c :: rest => c :: markQu rest
  | [] => []

def markLetter (before : Option Char) (c : Char) (next : Option Char) : Char :=
  if before.any isVowel && next.any isVowel then
    if c = 'u' then 'U' else if c = 'i' then 'I' else c
  else c

def unmarkLetter (c : Char) : Char := if c = 'I' then 'i' else if c = 'U' then 'u' else c

def pronouns : List String :=
  ["ci", "gli", "la", "le", "li", "lo", "mi", "ne", "si", "ti", "vi", "sene", "gliela", "gliele",
   "glieli", "glielo", "gliene", "mela", "mele", "meli", "melo", "mene", "tela", "tele", "teli",
   "telo", "tene", "cela", "cele", "celi", "celo", "cene", "vela", "vele", "veli", "velo", "vene"]

def dropPronoun (r : Regions) (word : List Char) : List Char :=
  match longest? pronouns word with
  | none => word
  | some (_, host) =>
    match longest? ["ando", "endo", "ar", "er", "ir"] host with
    | none => word
    | some (form, stem) =>
      if stem.length < r.verbal then word
      else if form = "ando" || form = "endo" then host
      else host ++ ['e']

def nounEndings : List String :=
  ["anza", "anze", "ico", "ici", "ica", "ice", "iche", "ichi", "ismo", "ismi", "abile", "abili",
   "ibile", "ibili", "ista", "iste", "isti", "istà", "istè", "istì", "oso", "osi", "osa", "ose",
   "mente", "atrice", "atrici", "ante", "anti"]

def replaced : List (String × String) :=
  [("logia", "log"), ("logie", "log"), ("uzione", "u"), ("uzioni", "u"), ("usione", "u"),
   ("usioni", "u"), ("enza", "ente"), ("enze", "ente")]

def agentEndings : List String := ["azione", "azioni", "atore", "atori"]

def actionEndings : List String := ["amento", "amenti", "imento", "imenti"]

def standardEndings : List String :=
  nounEndings ++ replaced.map Prod.fst ++ agentEndings ++ actionEndings ++
    ["amente", "ità", "ivo", "ivi", "iva", "ive"]

def dropAdverbial (second : Nat) (stem : List Char) : List Char :=
  match longest? ["iv", "os", "ic", "abil"] stem with
  | none => stem
  | some (ending, shorter) =>
    if shorter.length < second then stem
    else if ending = "iv" then dropFrom second "at" shorter
    else shorter

def dropAtIc (second : Nat) (stem : List Char) : List Char :=
  match beforeFrom? second "at" stem with
  | some shorter => dropFrom second "ic" shorter
  | none => stem

def dropStandard? (r : Regions) (word : List Char) : Option (List Char) :=
  match longest? standardEndings word with
  | none => none
  | some ("amente", stem) =>
    if stem.length < r.first then none else some (dropAdverbial r.second stem)
  | some (ending, stem) =>
    if actionEndings.contains ending then if stem.length < r.verbal then none else some stem
    else if stem.length < r.second then none
    else match replaced.lookup ending with
      | some new => some (stem ++ new.toList)
      | none =>
        if agentEndings.contains ending then some (dropFrom r.second "ic" stem)
        else match ending with
          | "ità" => some (dropLongest r.second ["abil", "ic", "iv"] stem)
          | "ivo" | "ivi" | "iva" | "ive" => some (dropAtIc r.second stem)
          | _ => some stem

def verbEndings : List String :=
  ["ammo", "ando", "ano", "are", "arono", "asse", "assero", "assi", "assimo", "ata", "ate", "ati",
   "ato", "ava", "avamo", "avano", "avate", "avi", "avo", "emmo", "enda", "ende", "endi", "endo",
   "erà", "erai", "eranno", "ere", "erebbe", "erebbero", "erei", "eremmo", "eremo", "ereste",
   "eresti", "erete", "erò", "erono", "essero", "ete", "eva", "evamo", "evano", "evate", "evi",
   "evo", "Yamo", "iamo", "immo", "irà", "irai", "iranno", "ire", "irebbe", "irebbero", "irei",
   "iremmo", "iremo", "ireste", "iresti", "irete", "irò", "irono", "isca", "iscano", "isce", "isci",
   "isco", "iscono", "issero", "ita", "ite", "iti", "ito", "iva", "ivamo", "ivano", "ivate", "ivi",
   "ivo", "ono", "uta", "ute", "uti", "uto", "ar", "ir"]

def dropVerb (r : Regions) (word : List Char) : List Char :=
  match longestFrom? r.verbal verbEndings word with
  | some (_, stem) => stem
  | none => word

/-- A last vowel other than `u`, an `i` before it, and the `h` that hardens a `c` or `g` which stands
in the region of verb endings itself. -/
def dropVowel (r : Regions) (word : List Char) : List Char :=
  let isEnd (c : Char) : Bool := "aeioàèìò".toList.contains c
  let word := if lastIs isEnd word && r.verbal < word.length then dropFrom r.verbal "i" word.dropLast
    else word
  if (longestFrom? r.verbal ["ch", "gh"] word).isSome then word.dropLast else word

def stem (word : List Char) : List Char :=
  let word := rewriteLetters markLetter none (markQu (word.map graveLetter))
  let r := romanceRegions isVowel word
  let word := dropPronoun r word
  (dropVowel r ((dropStandard? r word).getD (dropVerb r word))).map unmarkLetter

end DocSearch.Stem.Italian
