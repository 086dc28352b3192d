import DocSearch.Query.Language
import DocSearch.Stem.Dutch
import DocSearch.Stem.Finnish
import DocSearch.Stem.French
import DocSearch.Stem.German
import DocSearch.Stem.Italian
import DocSearch.Stem.Portuguese
import DocSearch.Stem.Russian
import DocSearch.Stem.Scandinavian
import DocSearch.Stem.Spanish

/- The stemmers that the program runs with, after the published Snowball algorithms. Six of those are not
here: words of these languages are left as they are. What is proved of a search holds for any stemmers. -/
namespace DocSearch.Stem

def snowball (language : Language) (word : List Char) : List Char :=
  match language with
  | .danish => Danish.stem word
  | .dutch => Dutch.stem word
  | .finnish => Finnish.stem word
  | .french => French.stem word
  | .german => German.stem word
  | .italian => Italian.stem word
  | .norwegian => Norwegian.stem word
  | .portuguese => Portuguese.stem word
  | .russian => Russian.stem word
  | .spanish => Spanish.stem word
  | .swedish => Swedish.stem word
  | .arabic | .english | .greek | .hungarian | .romanian | .tamil | .turkish => word

instance : Stemmers := ⟨snowball⟩

end DocSearch.Stem
