import DocSearch.Decimal.Double

/- Suggestions for a word that was not found: the words most similar to it, after Jaro and Winkler, in
double precision. -/
namespace DocSearch
namespace Similarity

/-- The letters matched so far: those of the first word in place, those of the second in order. -/
structure Matching where
  taken : List Bool
  letters : List Char

def take? (c : Char) (low high : Nat) : (position : Nat) → List Char → List Bool → Option (List Bool)
  | position, d :: word, taken :: rest =>
    if high < position then none
    else if low ≤ position && !taken && d = c then some (true :: rest)
    else (take? c low high (position + 1) word rest).map (taken :: ·)
  | _, _, _ => none

/-- Matches the letters of the second word from number `i` on, each with the first free equal letter
at most `window` places away. -/
def matchFrom (window : Nat) (word : List Char) : (i : Nat) → List Char → Matching → Matching
  | _, [], m => m
  | i, c :: rest, m =>
    match take? c (i - window) (i + window) 0 word m.taken with
    | some taken => matchFrom window word (i + 1) rest ⟨taken, m.letters ++ [c]⟩
    | none => matchFrom window word (i + 1) rest m

def jaro (a b : List Char) : Magnitude :=
  if a.isEmpty && b.isEmpty then Magnitude.ofRatio 1 1
  else if a.isEmpty || b.isEmpty then 0
  else
    let m := matchFrom (max a.length b.length / 2 - 1) a 0 b ⟨a.map fun _ => false, []⟩
    let count := m.letters.length
    if count = 0 then 0 else
      let own := (a.zip m.taken).filterMap fun (c, taken) => if taken then some c else none
      let swapped := ((own.zip m.letters).countP fun (c, d) => c ≠ d) / 2
      let sum := Magnitude.add (Magnitude.add (Magnitude.ofRatio count a.length)
        (Magnitude.ofRatio count b.length)) (Magnitude.ofRatio (count - swapped) count)
      let (num, den) := Magnitude.ratio sum
      Magnitude.ofRatio num (den * 3)

def commonStart (a b : List Char) : Nat :=
  (((a.zip b).take 4).takeWhile fun (c, d) => c = d).length

/-- A common start raises a similarity above seven tenths. -/
def jaroWinkler (a b : List Char) : Magnitude :=
  let similarity := jaro a b
  if Magnitude.ofRatio 7 10 < similarity then
    let raise := Magnitude.mul (Magnitude.ofRatio (commonStart a b) 1) (Magnitude.ofRatio 1 10)
    let rest := Magnitude.sub (Magnitude.ofRatio 1 1) similarity
    Magnitude.add similarity (Magnitude.mul raise rest)
  else similarity

end Similarity

structure Suggestion where
  text : String
  similarity : Magnitude
deriving DecidableEq, Repr

namespace Suggestion

def threshold : Magnitude := Magnitude.ofRatio 8 10

def ranksBefore (a b : Suggestion) : Bool :=
  b.similarity < a.similarity || (a.similarity == b.similarity && decide (a.text ≤ b.text))

def rank (similarity : String → Magnitude) (candidates : List String) (limit : Nat) :
    List Suggestion :=
  (((candidates.map fun text => ⟨text, similarity text⟩).filter (threshold < ·.similarity)).mergeSort
    ranksBefore).take limit

end Suggestion

def suggest (word : String) (candidates : List String) (limit : Nat) : List Suggestion :=
  Suggestion.rank (fun text => Similarity.jaroWinkler word.toList text.toList) candidates limit

end DocSearch
