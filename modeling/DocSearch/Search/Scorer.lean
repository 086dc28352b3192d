import DocSearch.Text.Basic

/- The weights that rank search results, and the scores that they add up to. Both are numbers of 64 bits
with a sign, and a sum that does not fit wraps round. -/
namespace DocSearch

instance wordToInt : Coe Int64 Int := ⟨Int64.toInt⟩

instance intToWord : Coe Int Int64 := ⟨Int64.ofInt⟩

structure Scorer where
  objNameMatch : Int64
  objPartialMatch : Int64
  objPrioImportant : Int64
  objPrioNormal : Int64
  objPrioUnimportant : Int64
  objPrioDefault : Int64
  title : Int64
  partialTitle : Int64
  term : Int64
  partialTerm : Int64
deriving DecidableEq, Repr

namespace Scorer

def default : Scorer where
  objNameMatch := 11
  objPartialMatch := 6
  objPrioImportant := 15
  objPrioNormal := 5
  objPrioUnimportant := -5
  objPrioDefault := 0
  title := 15
  partialTitle := 7
  term := 5
  partialTerm := 2

def weights (scorer : Scorer) : List (String × Int64) :=
  [("obj_name_match", scorer.objNameMatch), ("obj_partial_match", scorer.objPartialMatch),
   ("obj_prio_important", scorer.objPrioImportant), ("obj_prio_normal", scorer.objPrioNormal),
   ("obj_prio_unimportant", scorer.objPrioUnimportant),
   ("obj_prio_default", scorer.objPrioDefault), ("title", scorer.title),
   ("partial_title", scorer.partialTitle), ("term", scorer.term),
   ("partial_term", scorer.partialTerm)]

/-- None for a number that 64 bits do not hold. -/
def weight? (n : Int) : Option Int64 :=
  if ((n : Int64) : Int) = n then some n else none

def setWeight? (scorer : Scorer) (name : String) (weight : Int64) : Option Scorer :=
  match name with
  | "obj_name_match" => some { scorer with objNameMatch := weight }
  | "obj_partial_match" => some { scorer with objPartialMatch := weight }
  | "obj_prio_important" => some { scorer with objPrioImportant := weight }
  | "obj_prio_normal" => some { scorer with objPrioNormal := weight }
  | "obj_prio_unimportant" => some { scorer with objPrioUnimportant := weight }
  | "obj_prio_default" => some { scorer with objPrioDefault := weight }
  | "title" => some { scorer with title := weight }
  | "partial_title" => some { scorer with partialTitle := weight }
  | "term" => some { scorer with term := weight }
  | "partial_term" => some { scorer with partialTerm := weight }
  | _ => none

def set? (scorer : Scorer) (name : String) (n : Int) : Option Scorer :=
  (weight? n).bind (scorer.setWeight? name)

def priority (scorer : Scorer) (priority : Int) : Int64 :=
  if priority = 0 then scorer.objPrioImportant
  else if priority = 1 then scorer.objPrioNormal
  else if priority = 2 then scorer.objPrioUnimportant
  else scorer.objPrioDefault

def lastPart (name : List Char) : List Char := (name.reverse.takeWhile (· ≠ '.')).reverse

def objectName (scorer : Scorer) (fullname term : List Char) : Int64 :=
  if fullname = term || lastPart fullname = term then scorer.objNameMatch
  else if Text.occursIn term (lastPart fullname) then scorer.objPartialMatch
  else 0

end Scorer
end DocSearch
