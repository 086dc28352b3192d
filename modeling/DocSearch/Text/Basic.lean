/- Characters and texts: sets of characters, white space, cutting a text at separators, taking off a
leading part, and finding a part inside. -/
namespace DocSearch.Text

/-- Stops at the first range that begins after `n`, so the ranges have to ascend. -/
def inRanges : List (Nat × Nat) → Nat → Bool
  | [], _ => false
  | (first, last) :: rest, n => if n < first then false else n ≤ last || inRanges rest n

/-- The characters with the property White_Space. -/
def isBlank (c : Char) : Bool :=
  let n := c.toNat
  (0x9 ≤ n && n ≤ 0xD) || n == 0x20 || n == 0x85 || n == 0xA0 || n == 0x1680 ||
    (0x2000 ≤ n && n ≤ 0x200A) || n == 0x2028 || n == 0x2029 || n == 0x202F || n == 0x205F ||
    n == 0x3000

def trimLeft (s : List Char) : List Char := s.dropWhile isBlank

def trimRight (s : List Char) : List Char := (s.reverse.dropWhile isBlank).reverse

def trim (s : List Char) : List Char := trimRight (trimLeft s)

def isAllBlank (s : String) : Bool := s.toList.all isBlank

/-- `current` holds the piece under way, last character first; empty pieces are dropped. -/
def piecesFrom (separates : Char → Bool) (current : List Char) : List Char → List (List Char)
  | [] => if current.isEmpty then [] else [current.reverse]
  | c :: rest =>
    if separates c then
      if current.isEmpty then piecesFrom separates [] rest
      else current.reverse :: piecesFrom separates [] rest
    else piecesFrom separates (c :: current) rest

def pieces (separates : Char → Bool) (s : List Char) : List (List Char) :=
  piecesFrom separates [] s

def split (separates : Char → Bool) : List Char → List (List Char)
  | [] => [[]]
  | c :: rest =>
    if separates c then [] :: split separates rest
    else match split separates rest with
      | [] => [[c]]
      | part :: parts => (c :: part) :: parts

def after? : (front s : List Char) → Option (List Char)
  | [], s => some s
  | _ :: _, [] => none
  | f :: front, c :: s => if f = c then after? front s else none

def beginsWith (front s : String) : Bool := front.toList.isPrefixOf s.toList

def occursIn (part : List Char) : List Char → Bool
  | [] => part.isEmpty
  | c :: rest => part.isPrefixOf (c :: rest) || occursIn part rest

theorem occursIn_iff {part s : List Char} : occursIn part s = true ↔ part <:+: s := by
  induction s with
  | nil => simp [occursIn]
  | cons c rest ih =>
    rw [occursIn, Bool.or_eq_true, List.isPrefixOf_iff_prefix, ih, List.infix_cons_iff]

def joined (separator : String) (parts : List String) : String := separator.intercalate parts

end DocSearch.Text
