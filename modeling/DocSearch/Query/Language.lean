import DocSearch.Stem.Porter

/- The languages that a site can be built for, and the stem of a word in each. The stemmer for English
belongs to the program; those for the other languages come from outside, and nothing is known of them but
that a word has one stem. -/
namespace DocSearch

inductive Language
  | arabic
  | danish
  | dutch
  | english
  | finnish
  | french
  | german
  | greek
  | hungarian
  | italian
  | norwegian
  | portuguese
  | romanian
  | russian
  | spanish
  | swedish
  | tamil
  | turkish
deriving DecidableEq, Repr, Inhabited

/-- The stemmers for the languages other than English. -/
class Stemmers where
  stem : Language → List Char → List Char

namespace Language

def name : Language → String
  | .arabic => "arabic"
  | .danish => "danish"
  | .dutch => "dutch"
  | .english => "english"
  | .finnish => "finnish"
  | .french => "french"
  | .german => "german"
  | .greek => "greek"
  | .hungarian => "hungarian"
  | .italian => "italian"
  | .norwegian => "norwegian"
  | .portuguese => "portuguese"
  | .romanian => "romanian"
  | .russian => "russian"
  | .spanish => "spanish"
  | .swedish => "swedish"
  | .tamil => "tamil"
  | .turkish => "turkish"

def all : List Language :=
  [.arabic, .danish, .dutch, .english, .finnish, .french, .german, .greek, .hungarian, .italian,
   .norwegian, .portuguese, .romanian, .russian, .spanish, .swedish, .tamil, .turkish]

def ofName? (name : String) : Option Language := all.find? (·.name == name)

def stem [Stemmers] (language : Language) (word : List Char) : List Char :=
  match language with
  | .english => Stem.Porter.stem word
  | other => Stemmers.stem other word

def minStemLength : Nat := 3

/-- The stem, or the word itself where stemming would cut it too short. -/
def stemWord [Stemmers] (language : Language) (word : List Char) : List Char :=
  let stemmed := language.stem word
  if stemmed.length < minStemLength && minStemLength ≤ word.length then word else stemmed

end Language
end DocSearch
