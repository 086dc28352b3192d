import DocSearch.Stem.Regions

/- The stemmer for Russian. All endings stand behind the first vowel. -/
namespace DocSearch.Stem.Russian

def isVowel (c : Char) : Bool := "аеиоуыэюя".toList.contains c

/-- Takes off the longest of the endings in the region; those of the first list need an `а` or `я`
before them in the region. -/
def dropEnding? (start : Nat) (bound free : List String) (word : List Char) :
    Option (List Char) :=
  match longestFrom? start (bound ++ free) word with
  | none => none
  | some (ending, stem) =>
    if bound.contains ending then
      if start < stem.length && (endsIn "а" stem || endsIn "я" stem) then some stem else none
    else some stem

def dropGerund? (start : Nat) (word : List Char) : Option (List Char) :=
  dropEnding? start ["в", "вши", "вшись"] ["ив", "ивши", "ившись", "ыв", "ывши", "ывшись"] word

def dropReflexive (start : Nat) (word : List Char) : List Char :=
  (dropEnding? start [] ["ся", "сь"] word).getD word

def adjectiveEndings : List String :=
  ["ее", "ие", "ые", "ое", "ими", "ыми", "ей", "ий", "ый", "ой", "ем", "им", "ым", "ом", "его",
   "ого", "ему", "ому", "их", "ых", "ую", "юю", "ая", "яя", "ою", "ею"]

def dropAdjective? (start : Nat) (word : List Char) : Option (List Char) :=
  (dropEnding? start [] adjectiveEndings word).map fun stem =>
    (dropEnding? start ["ем", "нн", "вш", "ющ", "щ"] ["ивш", "ывш", "ующ"] stem).getD stem

def dropVerb? (start : Nat) (word : List Char) : Option (List Char) :=
  dropEnding? start
    ["ла", "на", "ете", "йте", "ли", "й", "л", "ем", "н", "ло", "но", "ет", "ют", "ны", "ть",
     "ешь", "нно"]
    ["ила", "ыла", "ена", "ейте", "уйте", "ите", "или", "ыли", "ей", "уй", "ил", "ыл", "им", "ым",
     "ен", "ило", "ыло", "ено", "ят", "ует", "уют", "ит", "ыт", "ены", "ить", "ыть", "ишь", "ую",
     "ю"] word

def nounEndings : List String :=
  ["а", "ев", "ов", "ие", "ье", "е", "иями", "ями", "ами", "еи", "ии", "и", "ией", "ей", "ой", "ий",
   "й", "иям", "ям", "ием", "ем", "ам", "ом", "о", "у", "ах", "иях", "ях", "ы", "ь", "ию", "ью",
   "ю", "ия", "ья", "я"]

def dropNoun? (start : Nat) (word : List Char) : Option (List Char) :=
  dropEnding? start [] nounEndings word

def dropInflection (start : Nat) (word : List Char) : List Char :=
  match dropGerund? start word with
  | some stem => stem
  | none =>
    let word := dropReflexive start word
    ((dropAdjective? start word).or ((dropVerb? start word).or (dropNoun? start word))).getD word

def dropDerivation (start second : Nat) (word : List Char) : List Char :=
  match longestFrom? start ["ост", "ость"] word with
  | some (_, stem) => if second ≤ stem.length then stem else word
  | none => word

def undouble (start : Nat) (word : List Char) : List Char :=
  match beforeFrom? start "нн" word with
  | some _ => word.dropLast
  | none => word

def tidy (start : Nat) (word : List Char) : List Char :=
  match longestFrom? start ["ейш", "ейше", "н", "ь"] word with
  | none => word
  | some ("н", _) => undouble start word
  | some ("ь", stem) => stem
  | some (_, stem) => undouble start stem

def stem (word : List Char) : List Char :=
  let start := pastFirst isVowel word 0
  let second := pastSyllable isVowel word (pastFirst (!isVowel ·) word start)
  let word := dropFrom start "и" (dropInflection start word)
  tidy start (dropDerivation start second word)

end DocSearch.Stem.Russian
