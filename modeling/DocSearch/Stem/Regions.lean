/- Endings of words and the regions in which they may stand: rules that take off endings apply only from
a certain place on. A place is the number of letters before it; a region that a word does not have
begins at its end. -/
namespace DocSearch.Stem

def before? (ending : String) (word : List Char) : Option (List Char) :=
  let letters := ending.toList
  if letters.isSuffixOf word then some (word.take (word.length - letters.length)) else none

def endsIn (ending : String) (word : List Char) : Bool := ending.toList.isSuffixOf word

def longest? (endings : List String) (word : List Char) : Option (String × List Char) :=
  endings.foldl (fun best ending =>
    match before? ending word, best with
    | none, _ => best
    | some stem, none => some (ending, stem)
    | some stem, some (_, shortest) =>
      if stem.length < shortest.length then some (ending, stem) else best) none

def pastFirst (test : Char → Bool) (word : List Char) (start : Nat) : Nat :=
  match (word.drop start).dropWhile (!test ·) with
  | [] => word.length
  | _ :: rest => word.length - rest.length

def pastSyllable (isVowel : Char → Bool) (word : List Char) (start : Nat) : Nat :=
  pastFirst (!isVowel ·) word (pastFirst isVowel word start)

structure Regions where
  first : Nat
  second : Nat
  /-- The region of verb endings. -/
  verbal : Nat

def syllableRegions (isVowel : Char → Bool) (word : List Char) : Nat × Nat :=
  let first := pastSyllable isVowel word 0
  (first, pastSyllable isVowel word first)

/-- The first region where it has to leave three letters before it. -/
def firstRegion (isVowel : Char → Bool) (word : List Char) : Nat :=
  if word.length < 3 then word.length else max 3 (pastSyllable isVowel word 0)

def romanceRegion (isVowel : Char → Bool) (word : List Char) : Nat :=
  match word with
  | a :: b :: rest =>
    if !isVowel b then pastFirst isVowel word 2
    else if isVowel a then pastFirst (!isVowel ·) word 2
    else if rest.isEmpty then 2
    else 3
  | _ => word.length

def romanceRegions (isVowel : Char → Bool) (word : List Char) : Regions :=
  let (first, second) := syllableRegions isVowel word
  ⟨first, second, romanceRegion isVowel word⟩

def lastIs (test : Char → Bool) (word : List Char) : Bool := word.getLast?.any test

def beforeFrom? (start : Nat) (ending : String) (word : List Char) : Option (List Char) :=
  (before? ending word).filter (start ≤ ·.length)

def dropFrom (start : Nat) (ending : String) (word : List Char) : List Char :=
  (beforeFrom? start ending word).getD word

def longestFrom? (start : Nat) (endings : List String) (word : List Char) :
    Option (String × List Char) :=
  longest? (endings.filter fun ending => (beforeFrom? start ending word).isSome) word

/-- Takes off the longest of several endings if it begins at `start` or later; a shorter ending gets
no chance. -/
def dropLongest (start : Nat) (endings : List String) (word : List Char) : List Char :=
  match longest? endings word with
  | some (_, stem) => if start ≤ stem.length then stem else word
  | none => word

/-- Rewrites each letter by its neighbours: the one before it as rewritten, the one behind it as
it was. -/
def rewriteLetters (letter : Option Char → Char → Option Char → Char) (before : Option Char) :
    List Char → List Char
  | [] => []
  | c :: rest =>
    let d := letter before c rest.head?
    d :: rewriteLetters letter (some d) rest

end DocSearch.Stem
