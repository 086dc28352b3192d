import DocSearch.Stem.Regions

/- Porter's stemmer for English: five steps, each of which looks at the longest ending of a table
and replaces it when the stem before it is long enough. -/
namespace DocSearch.Stem.Porter

def isVowelLetter (c : Char) : Bool := c = 'a' || c = 'e' || c = 'i' || c = 'o' || c = 'u'

/-- Which letters are consonants: a `y` is one unless it follows a consonant. -/
def consonants (afterConsonant : Bool) : List Char → List Bool
  | [] => []
  | c :: rest =>
    let consonant := if isVowelLetter c then false else if c = 'y' then !afterConsonant else true
    consonant :: consonants consonant rest

def flags (word : List Char) : List Bool := consonants false word

/-- How often consonants follow vowels; `inVowels` says whether a vowel came last. -/
def sequences (inVowels : Bool) : List Bool → Nat
  | [] => 0
  | true :: rest => (if inVowels then 1 else 0) + sequences false rest
  | false :: rest => sequences true rest

def measure (stem : List Char) : Nat := sequences false (flags stem)

def hasVowel (stem : List Char) : Bool := (flags stem).any (!·)

def endsDouble (word : List Char) : Bool :=
  match word.reverse, (flags word).reverse with
  | c :: d :: _, consonant :: _ => c = d && consonant
  | _, _ => false

def endsShort (word : List Char) : Bool :=
  match word.reverse, (flags word).reverse with
  | c :: _, true :: false :: true :: _ => !(c = 'w' || c = 'x' || c = 'y')
  | _, _ => false

def step1a (word : List Char) : List Char :=
  match before? "sses" word with
  | some stem => stem ++ "ss".toList
  | none =>
    match before? "ies" word with
    | some stem => stem ++ ['i']
    | none =>
      if endsIn "ss" word then word
      else (before? "s" word).getD word

def mend (stem : List Char) : List Char :=
  if endsIn "at" stem || endsIn "bl" stem || endsIn "iz" stem then stem ++ ['e']
  else if endsDouble stem && !(endsIn "l" stem || endsIn "s" stem || endsIn "z" stem) then stem.dropLast
  else if measure stem = 1 && endsShort stem then stem ++ ['e']
  else stem

def step1b (word : List Char) : List Char :=
  match before? "eed" word with
  | some stem => if 0 < measure stem then stem ++ "ee".toList else word
  | none =>
    match (before? "ed" word).or (before? "ing" word) with
    | some stem => if hasVowel stem then mend stem else word
    | none => word

def step1c (word : List Char) : List Char :=
  match before? "y" word with
  | some stem => if hasVowel stem then stem ++ ['i'] else word
  | none => word

def rules2 : List (String × String) :=
  [("ational", "ate"), ("tional", "tion"), ("enci", "ence"), ("anci", "ance"), ("izer", "ize"),
   ("abli", "able"), ("alli", "al"), ("entli", "ent"), ("eli", "e"), ("ousli", "ous"),
   ("ization", "ize"), ("ation", "ate"), ("ator", "ate"), ("alism", "al"), ("iveness", "ive"),
   ("fulness", "ful"), ("ousness", "ous"), ("aliti", "al"), ("iviti", "ive"), ("biliti", "ble")]

def rules3 : List (String × String) :=
  [("icate", "ic"), ("ative", ""), ("alize", "al"), ("iciti", "ic"), ("ical", "ic"), ("ful", ""),
   ("ness", "")]

def endings4 : List String :=
  ["al", "ance", "ence", "er", "ic", "able", "ible", "ant", "ement", "ment", "ent", "ion", "ou",
   "ism", "ate", "iti", "ous", "ive", "ize"]

/-- Replaces the longest ending of the table if the stem has a positive measure; a shorter ending
gets no chance. -/
def replaceLongest (rules : List (String × String)) (word : List Char) : List Char :=
  match longest? (rules.map Prod.fst) word with
  | some (ending, stem) =>
    if 0 < measure stem then stem ++ ((rules.lookup ending).getD "").toList else word
  | none => word

def step2 (word : List Char) : List Char := replaceLongest rules2 word

def step3 (word : List Char) : List Char := replaceLongest rules3 word

/-- Endings behind a longer stem; `ion` goes only behind an `s` or a `t`. -/
def step4 (word : List Char) : List Char :=
  match longest? endings4 word with
  | some (ending, stem) =>
    if measure stem ≤ 1 then word
    else if ending = "ion" && !(endsIn "s" stem || endsIn "t" stem) then word
    else stem
  | none => word

def step5a (word : List Char) : List Char :=
  match before? "e" word with
  | some stem =>
    if 1 < measure stem || (measure stem = 1 && !endsShort stem) then stem else word
  | none => word

def step5b (word : List Char) : List Char :=
  if endsIn "l" word && endsDouble word && 1 < measure word then word.dropLast else word

def stem (word : List Char) : List Char :=
  if word.length < 3 then word
  else step5b (step5a (step4 (step3 (step2 (step1c (step1b (step1a word)))))))

end DocSearch.Stem.Porter
