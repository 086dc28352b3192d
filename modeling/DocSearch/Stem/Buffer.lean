import DocSearch.Stem.Porter

/- The English stemmer on a buffer of letters that is read by index. A function gives none as soon as
it reads a letter or a slice outside the buffer, takes more from a number than it has, or does not
come to an end. -/
namespace DocSearch.Stem.Buffer

/-- Stems are counts here: so many letters at the front of the buffer. -/
abbrev Checked (α : Type) := Option α

def minus (n k : Nat) : Checked Nat := if k ≤ n then some (n - k) else none

def sliceFrom (b : List Char) (start : Nat) : Checked (List Char) :=
  if start ≤ b.length then some (b.drop start) else none

def isConsonant (b : List Char) : (i : Nat) → Checked Bool
  | 0 => do
    let c ← b[0]?
    return !Porter.isVowelLetter c
  | i + 1 => do
    let c ← b[i + 1]?
    if Porter.isVowelLetter c then return false
    else if c = 'y' then return !(← isConsonant b i)
    else return true

/-- Passes up to `count` letters from `i` on, as long as they are consonants or vowels, as asked. -/
def pass (b : List Char) (consonants : Bool) (i : Nat) : (count : Nat) → Checked Nat
  | 0 => some i
  | count + 1 => do
    if (← isConsonant b i) = consonants then pass b consonants (i + 1) count else return i

def measureFrom (b : List Char) (len : Nat) : (fuel i m : Nat) → Checked Nat
  | 0, _, _ => none
  | fuel + 1, i, m => do
    let i ← pass b false i (len - i)
    if len ≤ i then return m
    else
      let i ← pass b true i (len - i)
      measureFrom b len fuel i (m + 1)

def measure (b : List Char) (len : Nat) : Checked Nat := do
  let i ← pass b true 0 len
  measureFrom b len (len + 1) i 0

def hasVowelFrom (b : List Char) (i : Nat) : (count : Nat) → Checked Bool
  | 0 => some false
  | count + 1 => do
    if ← isConsonant b i then hasVowelFrom b (i + 1) count else return true

def hasVowel (b : List Char) (len : Nat) : Checked Bool := hasVowelFrom b 0 len

def endsDouble (b : List Char) (len : Nat) : Checked Bool := do
  if len < 2 then return false
  else
    let last ← b[← minus len 1]?
    let other ← b[← minus len 2]?
    if last = other then isConsonant b (← minus len 1) else return false

def endsShort (b : List Char) (len : Nat) : Checked Bool := do
  if len < 3 then return false
  else if !(← isConsonant b (← minus len 3)) then return false
  else if ← isConsonant b (← minus len 2) then return false
  else if !(← isConsonant b (← minus len 1)) then return false
  else
    let last ← b[← minus len 1]?
    return !(last = 'w' || last = 'x' || last = 'y')

def ends (b : List Char) (ending : String) : Checked (Option Nat) := do
  let n := ending.toList.length
  if b.length < n then return none
  else
    let start ← minus b.length n
    if (← sliceFrom b start) = ending.toList then return some start else return none

def endsIn (b : List Char) (ending : String) : Checked Bool := do
  return (← ends b ending).isSome

def setTo (b : List Char) (start : Nat) (ending : String) : List Char :=
  b.take start ++ ending.toList

def longest (b : List Char) : (endings : List String) → (best : Option (String × Nat)) →
    Checked (Option (String × Nat))
  | [], best => some best
  | ending :: endings, best => do
    match ← ends b ending, best with
    | none, _ => longest b endings best
    | some start, none => longest b endings (some (ending, start))
    | some start, some (other, first) =>
      longest b endings (if start < first then some (ending, start) else some (other, first))

def step1a (b : List Char) : Checked (List Char) := do
  match ← ends b "sses" with
  | some start => return setTo b start "ss"
  | none =>
    match ← ends b "ies" with
    | some start => return setTo b start "i"
    | none =>
      if ← endsIn b "ss" then return b
      else
        match ← ends b "s" with
        | some start => return setTo b start ""
        | none => return b

def mend (b : List Char) : Checked (List Char) := do
  let len := b.length
  if ← endsIn b "at" then return b ++ ['e']
  else if ← endsIn b "bl" then return b ++ ['e']
  else if ← endsIn b "iz" then return b ++ ['e']
  else
    let loses ← if ← endsDouble b len then do
        let last ← b[← minus len 1]?
        pure !(last = 'l' || last = 's' || last = 'z')
      else pure false
    if loses then return b.dropLast
    else if (← measure b len) = 1 then
      if ← endsShort b len then return b ++ ['e'] else return b
    else return b

def step1b (b : List Char) : Checked (List Char) := do
  match ← ends b "eed" with
  | some start => if 0 < (← measure b start) then return setTo b start "ee" else return b
  | none =>
    let found ← match ← ends b "ed" with
      | some start => pure (some start)
      | none => ends b "ing"
    match found with
    | none => return b
    | some start => if ← hasVowel b start then mend (setTo b start "") else return b

def step1c (b : List Char) : Checked (List Char) := do
  match ← ends b "y" with
  | some start => if ← hasVowel b start then return setTo b start "i" else return b
  | none => return b

def replaceLongest (rules : List (String × String)) (b : List Char) : Checked (List Char) := do
  match ← longest b (rules.map Prod.fst) none with
  | none => return b
  | some (ending, start) =>
    if 0 < (← measure b start) then
      match rules.lookup ending with
      | some replacement => return setTo b start replacement
      | none => return b
    else return b

def step4 (b : List Char) : Checked (List Char) := do
  match ← longest b Porter.endings4 none with
  | none => return b
  | some (ending, start) =>
    if (← measure b start) ≤ 1 then return b
    else if ending = "ion" then
      if start = 0 then return b
      else
        let before ← b[← minus start 1]?
        if before = 's' || before = 't' then return setTo b start "" else return b
    else return setTo b start ""

def step5a (b : List Char) : Checked (List Char) := do
  match ← ends b "e" with
  | none => return b
  | some start =>
    let m ← measure b start
    if 1 < m then return setTo b start ""
    else if m = 1 then
      if ← endsShort b start then return b else return setTo b start ""
    else return b

def step5b (b : List Char) : Checked (List Char) := do
  let len := b.length
  if b.getLast? = some 'l' then
    if ← endsDouble b len then
      if 1 < (← measure b len) then return b.dropLast else return b
    else return b
  else return b

def stem (word : List Char) : Checked (List Char) := do
  if word.length < 3 then return word
  else
    let b ← step1a word
    let b ← step1b b
    let b ← step1c b
    let b ← replaceLongest Porter.rules2 b
    let b ← replaceLongest Porter.rules3 b
    let b ← step4 b
    let b ← step5a b
    step5b b

end DocSearch.Stem.Buffer
