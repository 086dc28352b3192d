import DocSearch.Stem.Regions

/- The stemmer for French. A `u` or `i` between vowels, a `y` beside one and a `u` behind `q` count
as consonants and are written large meanwhile. -/
namespace DocSearch.Stem.French

def isVowel (c : Char) : Bool := "aeiouyâàëéêèïîôûù".toList.contains c

def staysVowel : List Char → Bool
  | 'y' :: _ => false
  | 'u' :: c :: _ | 'i' :: c :: _ => !isVowel c
  | c :: _ => isVowel c
  | [] => false

def mark (before : Option Char) : List Char → List Char
  | [] => []
  | c :: rest =>
    let behindVowel := before.any isVowel
    let between := behindVowel && rest.head?.any isVowel
    let d :=
      if c = 'u' && (between || before = some 'q') then 'U'
      else if c = 'i' && between then 'I'
      else if c = 'y' && (behindVowel || staysVowel rest) then 'Y'
      else c
    d :: mark (some d) rest

def unmarkLetter (c : Char) : Char :=
  match c with
  | 'I' => 'i'
  | 'U' => 'u'
  | 'Y' => 'y'
  | c => c

def verbalRegion (word : List Char) : Nat :=
  match word with
  | a :: b :: _ :: _ =>
    if (isVowel a && isVowel b) || ["par", "col", "tap"].any (·.toList.isPrefixOf word) then 3
    else pastFirst isVowel word 1
  | _ => pastFirst isVowel word 1

def regions (word : List Char) : Regions :=
  let (first, second) := syllableRegions isVowel word
  ⟨first, second, verbalRegion word⟩

def plainEndings : List String :=
  ["ance", "iqUe", "isme", "able", "iste", "eux", "ances", "iqUes", "ismes", "ables", "istes"]

def agentEndings : List String := ["atrice", "ateur", "ation", "atrices", "ateurs", "ations"]

def replaced : List (String × String) :=
  [("logie", "log"), ("logies", "log"), ("usion", "u"), ("ution", "u"), ("usions", "u"),
   ("utions", "u"), ("ence", "ent"), ("ences", "ent")]

def standardEndings : List String :=
  plainEndings ++ agentEndings ++ replaced.map Prod.fst ++
    ["ement", "ements", "ité", "ités", "if", "ive", "ifs", "ives", "eaux", "aux", "euse", "euses",
     "issement", "issements", "amment", "emment", "ment", "ments"]

/-- Takes off an ending in the second region and replaces it elsewhere. -/
def dropOrReplace (second : Nat) (ending new : String) (word : List Char) : List Char :=
  match before? ending word with
  | none => word
  | some stem => if second ≤ stem.length then stem else stem ++ new.toList

def dropAdverbial (r : Regions) (stem : List Char) : List Char :=
  match longest? ["iv", "eus", "abl", "iqU", "ièr", "Ièr"] stem with
  | none => stem
  | some (ending, shorter) =>
    let inSecond := r.second ≤ shorter.length
    match ending with
    | "iv" => if inSecond then dropFrom r.second "at" shorter else stem
    | "eus" =>
      if inSecond then shorter
      else if r.first ≤ shorter.length then shorter ++ "eux".toList else stem
    | "abl" | "iqU" => if inSecond then shorter else stem
    | _ => if r.verbal ≤ shorter.length then shorter ++ ['i'] else stem

def dropAbstract (r : Regions) (stem : List Char) : List Char :=
  match longest? ["abil", "ic", "iv"] stem with
  | none => stem
  | some ("iv", _) => dropFrom r.second "iv" stem
  | some ("ic", _) => dropOrReplace r.second "ic" "iqU" stem
  | some _ => dropOrReplace r.second "abil" "abl" stem

def dropAtIc (r : Regions) (stem : List Char) : List Char :=
  match beforeFrom? r.second "at" stem with
  | some shorter => dropOrReplace r.second "ic" "iqU" shorter
  | none => stem

/-- The word without a standard ending, and whether the search for endings ends here. -/
def dropStandard (r : Regions) (word : List Char) : Bool × List Char :=
  match longest? standardEndings word with
  | none => (false, word)
  | some (ending, stem) =>
    let inFirst := r.first ≤ stem.length
    let inSecond := r.second ≤ stem.length
    let inVerbal := r.verbal ≤ stem.length
    let only (condition : Bool) (new : List Char) := if condition then (true, new) else (false, word)
    if plainEndings.contains ending then only inSecond stem
    else if agentEndings.contains ending then
      only inSecond (dropOrReplace r.second "ic" "iqU" stem)
    else match replaced.lookup ending with
      | some new => only inSecond (stem ++ new.toList)
      | none =>
        match ending with
        | "ement" | "ements" => only inVerbal (dropAdverbial r stem)
        | "ité" | "ités" => only inSecond (dropAbstract r stem)
        | "if" | "ive" | "ifs" | "ives" => only inSecond (dropAtIc r stem)
        | "eaux" => (true, stem ++ "eau".toList)
        | "aux" => only inFirst (stem ++ "al".toList)
        | "euse" | "euses" =>
          if inSecond then (true, stem) else only inFirst (stem ++ "eux".toList)
        | "issement" | "issements" => only (inFirst && lastIs (!isVowel ·) stem) stem
        | "amment" => (false, if inVerbal then stem ++ "ant".toList else word)
        | "emment" => (false, if inVerbal then stem ++ "ent".toList else word)
        | _ => (false, if lastIs isVowel stem && r.verbal < stem.length then stem else word)

def iVerbEndings : List String :=
  ["îmes", "ît", "îtes", "i", "ie", "ies", "ir", "ira", "irai", "iraIent", "irais", "irait", "iras",
   "irent", "irez", "iriez", "irions", "irons", "iront", "is", "issaIent", "issais", "issait",
   "issant", "issante", "issantes", "issants", "isse", "issent", "isses", "issez", "issiez",
   "issions", "issons", "it"]

def dropIVerb? (r : Regions) (word : List Char) : Option (List Char) :=
  match longestFrom? r.verbal iVerbEndings word with
  | some (_, stem) =>
    if r.verbal < stem.length && lastIs (!isVowel ·) stem then some stem else none
  | none => none

def eVerbEndings : List String :=
  ["é", "ée", "ées", "és", "èrent", "er", "era", "erai", "eraIent", "erais", "erait", "eras",
   "erez", "eriez", "erions", "erons", "eront", "ez", "iez"]

def aVerbEndings : List String :=
  ["âmes", "ât", "âtes", "a", "ai", "aIent", "ais", "ait", "ant", "ante", "antes", "ants", "as",
   "asse", "assent", "asses", "assiez", "assions"]

def dropVerb? (r : Regions) (word : List Char) : Option (List Char) :=
  match longestFrom? r.verbal ("ions" :: eVerbEndings ++ aVerbEndings) word with
  | none => none
  | some ("ions", stem) => if r.second ≤ stem.length then some stem else none
  | some (ending, stem) =>
    if aVerbEndings.contains ending then some (dropFrom r.verbal "e" stem) else some stem

def respell (word : List Char) : List Char :=
  if endsIn "Y" word then word.dropLast ++ ['i']
  else if endsIn "ç" word then word.dropLast ++ ['c']
  else word

def dropResidue (r : Regions) (word : List Char) : List Char :=
  let word := match before? "s" word with
    | some stem => if lastIs (!"aiouès".toList.contains ·) stem then stem else word
    | none => word
  match longestFrom? r.verbal ["ion", "ier", "ière", "Ier", "Ière", "e", "ë"] word with
  | none => word
  | some (ending, stem) =>
    match ending with
    | "ion" =>
      if r.second ≤ stem.length && r.verbal < stem.length && (endsIn "s" stem || endsIn "t" stem) then
        stem
      else word
    | "e" => stem
    | "ë" => if (beforeFrom? r.verbal "gu" stem).isSome then stem else word
    | _ => stem ++ ['i']

def undouble (word : List Char) : List Char :=
  if ["enn", "onn", "ett", "ell", "eill"].any (endsIn · word) then word.dropLast else word

def unaccent (word : List Char) : List Char :=
  let consonants := word.reverse.takeWhile (!isVowel ·)
  match word.reverse.dropWhile (!isVowel ·) with
  | c :: rest =>
    if !consonants.isEmpty && (c = 'é' || c = 'è') then rest.reverse ++ 'e' :: consonants.reverse
    else word
  | [] => word

def stem (word : List Char) : List Char :=
  let word := mark none word
  let r := regions word
  let (finished, word) := dropStandard r word
  let shorter := if finished then some word else (dropIVerb? r word).or (dropVerb? r word)
  let word := match shorter with
    | some shorter => respell shorter
    | none => dropResidue r word
  (unaccent (undouble word)).map unmarkLetter

end DocSearch.Stem.French
