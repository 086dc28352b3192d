import DocSearch.Stem.Regions

/- The stemmers for Danish, Norwegian and Swedish, which take off an inflection, shorten a pair of
consonants and take off a derivation. -/
namespace DocSearch.Stem

namespace Scandinavian

/-- A final `s` is an ending behind certain letters only. -/
def dropInflection (isBeforeS : List Char → Bool) (endings : List String) (start : Nat)
    (word : List Char) : List Char :=
  match longestFrom? start ("s" :: endings) word with
  | some ("s", stem) => if isBeforeS stem then stem else word
  | some (_, stem) => stem
  | none => word

def shortenPair (pairs : List String) (start : Nat) (word : List Char) : List Char :=
  match longestFrom? start pairs word with
  | some _ => word.dropLast
  | none => word

end Scandinavian

namespace Danish
open Scandinavian

def isVowel (c : Char) : Bool := "aeiouyæåø".toList.contains c

def bearsS (c : Char) : Bool := "abcdfghjklmnoprtvyzå".toList.contains c

def endings : List String :=
  ["hed", "ethed", "ered", "e", "erede", "ende", "erende", "ene", "erne", "ere", "en", "heden",
   "eren", "er", "heder", "erer", "heds", "es", "endes", "erendes", "enes", "ernes", "eres", "ens",
   "hedens", "erens", "ers", "ets", "erets", "et", "eret"]

def pairs : List String := ["gd", "dt", "gt", "kt"]

def dropDerivation (start : Nat) (word : List Char) : List Char :=
  let word := if endsIn "igst" word then word.dropLast.dropLast else word
  match longestFrom? start ["ig", "lig", "elig", "els", "løst"] word with
  | some ("løst", _) => word.dropLast
  | some (_, stem) => shortenPair pairs start stem
  | none => word

def undouble (start : Nat) (word : List Char) : List Char :=
  match word.reverse with
  | c :: d :: _ => if start < word.length && !isVowel c && c = d then word.dropLast else word
  | _ => word

def stem (word : List Char) : List Char :=
  let start := firstRegion isVowel word
  let stripped := dropInflection (lastIs bearsS) endings start word
  undouble start (dropDerivation start (shortenPair pairs start stripped))

end Danish

namespace Norwegian

def isVowel (c : Char) : Bool := "aeiouyæåø".toList.contains c

def bearsS (c : Char) : Bool := "bcdfghjlmnoprtvyz".toList.contains c

def endings : List String :=
  ["a", "e", "ede", "ande", "ende", "ane", "ene", "hetene", "en", "heten", "ar", "er", "heter",
   "as", "es", "edes", "endes", "enes", "hetenes", "ens", "hetens", "ers", "ets", "et", "het",
   "ast"]

def isBeforeS (stem : List Char) : Bool :=
  lastIs bearsS stem || (endsIn "k" stem && lastIs (!isVowel ·) stem.dropLast)

def dropInflection (start : Nat) (word : List Char) : List Char :=
  match longestFrom? start ("s" :: "erte" :: "ert" :: endings) word with
  | some ("s", stem) => if isBeforeS stem then stem else word
  | some ("erte", stem) | some ("ert", stem) => stem ++ "er".toList
  | some (_, stem) => stem
  | none => word

def dropDerivation (start : Nat) (word : List Char) : List Char :=
  let endings :=
    ["leg", "eleg", "ig", "eig", "lig", "elig", "els", "lov", "elov", "slov", "hetslov"]
  match longestFrom? start endings word with
  | some (_, stem) => stem
  | none => word

def stem (word : List Char) : List Char :=
  let start := firstRegion isVowel word
  dropDerivation start (Scandinavian.shortenPair ["dt", "vt"] start (dropInflection start word))

end Norwegian

namespace Swedish
open Scandinavian

def isVowel (c : Char) : Bool := "aeiouyäåö".toList.contains c

def bearsS (c : Char) : Bool := "bcdfghjklmnoprtvy".toList.contains c

def endings : List String :=
  ["a", "arna", "erna", "heterna", "orna", "ad", "e", "ade", "ande", "arne", "are", "aste", "en",
   "anden", "aren", "heten", "ern", "ar", "er", "heter", "or", "as", "arnas", "ernas", "ornas",
   "es", "ades", "andes", "ens", "arens", "hetens", "erns", "at", "andet", "het", "ast"]

def dropDerivation (start : Nat) (word : List Char) : List Char :=
  match longestFrom? start ["lig", "ig", "els", "löst", "fullt"] word with
  | some ("löst", _) | some ("fullt", _) => word.dropLast
  | some (_, stem) => stem
  | none => word

def stem (word : List Char) : List Char :=
  let start := firstRegion isVowel word
  let pairs := ["dd", "gd", "nn", "dt", "gt", "kt", "tt"]
  dropDerivation start (shortenPair pairs start (dropInflection (lastIs bearsS) endings start word))

end Swedish

end DocSearch.Stem
