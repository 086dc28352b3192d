import Mathlib.Tactic.IntervalCases
import DocSearch.Proofs.Literal.Json

/- The keys that stand in a text without quotes, found character by character and without regard to
any grammar: such a key is all that stands between a mark and a colon, outside of strings. -/
namespace DocSearch.Literal

/-- What a text consists of for one who looks for keys without quotes. -/
inductive Piece
  | bare (key : List Char)
  | other (c : Char)

namespace Piece

def asWritten : Piece → List Char
  | .bare key => key
  | .other c => [c]

def quoted : Piece → List Char
  | .bare key => '"' :: key ++ ['"']
  | .other c => [c]

def bareKey? : Piece → Option String
  | .bare key => some (String.ofList key)
  | .other _ => none

end Piece

/-- Outside strings, behind the characters of `word`; in a string; behind a backslash in one. -/
inductive Spot
  | outside (word : List Char)
  | inside
  | escaped

def marks : List Char := ['\x7b', '\x7d', '[', ']', ',', ':', '"']

def isMark (c : Char) : Bool := marks.contains c

def Unmarked (s : List Char) : Prop := ∀ c ∈ s, isMark c = false

instance (s : List Char) : Decidable (Unmarked s) := List.decidableBAll _ s

namespace Spot

def word : Spot → List Char
  | .outside word => word
  | .inside => []
  | .escaped => []

def next : Spot → Char → Spot
  | .outside word, c =>
    if c = '"' then .inside else if isMark c then .outside [] else .outside (word ++ [c])
  | .inside, c => if c = '"' then .outside [] else if c = '\\' then .escaped else .inside
  | .escaped, _ => .inside

def completed : Spot → Char → List Piece
  | .outside word, c =>
    if c = ':' ∧ word ≠ [] then [.bare word, .other c]
    else if isMark c then word.map .other ++ [.other c]
    else []
  | .inside, c => [.other c]
  | .escaped, c => [.other c]

end Spot

def piecesFrom (spot : Spot) : List Char → List Piece
  | [] => spot.word.map .other
  | c :: s => spot.completed c ++ piecesFrom (spot.next c) s

def pieces (s : List Char) : List Piece := piecesFrom (.outside []) s

/-- The text with every bare key in quotes. -/
def quoteKeys (s : List Char) : List Char := (pieces s).flatMap Piece.quoted

def bareKeys (s : List Char) : List String := (pieces s).filterMap Piece.bareKey?

theorem flatMap_other (text : Piece → List Char) (own : ∀ c, text (.other c) = [c])
    (s : List Char) : (s.map Piece.other).flatMap text = s := by
  induction s with
  | nil => rfl
  | cons c s ih => simp [own, ih]

theorem asWritten_completed (spot : Spot) (c : Char) :
    (spot.completed c).flatMap Piece.asWritten ++ (spot.next c).word = spot.word ++ [c] := by
  have mark : isMark ':' = true ∧ isMark '"' = true := by decide
  cases spot with
  | outside word =>
    have others := flatMap_other Piece.asWritten (fun _ => rfl) word
    simp only [Spot.completed, Spot.next]
    split_ifs <;> simp_all [Piece.asWritten, Spot.word]
  | inside =>
    simp only [Spot.next]
    split_ifs <;> rfl
  | escaped => rfl

theorem asWritten_pieces (s : List Char) : (pieces s).flatMap Piece.asWritten = s := by
  have from_spot (spot : Spot) : (piecesFrom spot s).flatMap Piece.asWritten = spot.word ++ s := by
    induction s generalizing spot with
    | nil =>
      have others := flatMap_other Piece.asWritten (fun _ => rfl) spot.word
      simpa [piecesFrom] using others
    | cons c s ih =>
      calc
        (piecesFrom spot (c :: s)).flatMap Piece.asWritten
          = (spot.completed c).flatMap Piece.asWritten ++ ((spot.next c).word ++ s) := by
            rw [piecesFrom, List.flatMap_append, ih]
        _ = spot.word ++ c :: s := by
            rw [← List.append_assoc, asWritten_completed, List.append_assoc, List.singleton_append]
  exact from_spot (.outside [])

/-- In front of `rest` the text comes apart into the pieces found, whatever they are in `rest`. -/
def Reads (s rest : List Char) (found : List Piece) : Prop :=
  pieces (s ++ rest) = found ++ pieces rest

theorem Reads.append {s t rest : List Char} {found more : List Piece}
    (first : Reads s (t ++ rest) found) (later : Reads t rest more) :
    Reads (s ++ t) rest (found ++ more) := by
  unfold Reads at first later ⊢
  rw [List.append_assoc, first, later, List.append_assoc]

theorem reads_mark {c : Char} (mark : isMark c = true) (quote : c ≠ '"') (rest : List Char) :
    Reads [c] rest [.other c] := by
  simp [Reads, pieces, piecesFrom, Spot.completed, Spot.next, mark, quote]

theorem reads_pair {c d : Char} (first : isMark c = true ∧ c ≠ '"')
    (second : isMark d = true ∧ d ≠ '"') (rest : List Char) :
    Reads [c, d] rest ([c, d].map .other) :=
  (reads_mark first.1 first.2 _).append (reads_mark second.1 second.2 rest)

theorem piecesFrom_unmarked {s : List Char} (unmarked : Unmarked s)
    (word rest : List Char) :
    piecesFrom (.outside word) (s ++ rest) = piecesFrom (.outside (word ++ s)) rest := by
  induction s generalizing word with
  | nil => rw [List.nil_append, List.append_nil]
  | cons c s ih =>
    obtain ⟨first, later⟩ := List.forall_mem_cons.1 unmarked
    have colon : c ≠ ':' := by
      intro same
      subst same
      cases first
    have quote : c ≠ '"' := by
      intro same
      subst same
      cases first
    rw [List.cons_append, piecesFrom]
    simp [Spot.completed, Spot.next, first, colon, quote, ih later]

def ValueEnd (rest : List Char) : Prop := ∀ c ∈ rest.head?, c = ',' ∨ c = ']' ∨ c = '\x7d'

theorem reads_unmarked {s rest : List Char} (unmarked : Unmarked s)
    (ends : ValueEnd rest) : Reads s rest (s.map .other) := by
  unfold Reads pieces
  rw [piecesFrom_unmarked unmarked, List.nil_append]
  cases rest with
  | nil => simp [piecesFrom, Spot.word]
  | cons c rest =>
    have mark : isMark c = true ∧ c ≠ ':' ∧ c ≠ '"' := by
      rcases ends c rfl with rfl | rfl | rfl <;> decide
    simp [piecesFrom, Spot.completed, Spot.next, mark]

theorem reads_key {key : List Char} (unmarked : Unmarked key) (some : key ≠ [])
    (rest : List Char) : Reads (key ++ [':']) rest [.bare key, .other ':'] := by
  have mark : isMark ':' = true := by decide
  unfold Reads pieces
  rw [List.append_assoc, piecesFrom_unmarked unmarked, List.nil_append]
  simp [piecesFrom, Spot.completed, Spot.next, some, mark]

theorem HexUnit.plain {digits : List Char} {n : Nat} (hex : HexUnit digits n) :
    ∀ c ∈ digits, c ≠ '"' ∧ c ≠ '\\' := by
  have digit {c : Char} {k : Nat} (spelled : HexDigit c k) : c ≠ '"' ∧ c ≠ '\\' := by
    obtain ⟨bound, rfl | rfl⟩ := spelled
    · interval_cases k <;> decide
    · interval_cases k <;> decide
  cases hex with
  | digits first second third fourth =>
    simp [digit first, digit second, digit third, digit fourth]

theorem piecesFrom_inside {s : List Char} (plain : ∀ c ∈ s, c ≠ '"' ∧ c ≠ '\\') (rest : List Char) :
    piecesFrom .inside (s ++ rest) = s.map .other ++ piecesFrom .inside rest := by
  induction s with
  | nil => rfl
  | cons c s ih =>
    obtain ⟨first, later⟩ := List.forall_mem_cons.1 plain
    simp [piecesFrom, Spot.completed, Spot.next, first, ih later]

/-- A backslash takes the next character with it, so that only the quote at its end closes a
string. -/
theorem piecesFrom_chars {s text : List Char} (body : JsonChars s text) (rest : List Char) :
    piecesFrom .inside (s ++ '"' :: rest) = (s ++ ['"']).map .other ++ pieces rest := by
  have escaped (letter : Char) (s : List Char) : piecesFrom .inside ('\\' :: letter :: s) =
      .other '\\' :: .other letter :: piecesFrom .inside s := by
    simp [piecesFrom, Spot.completed, Spot.next]
  induction body with
  | done => simp [piecesFrom, Spot.completed, Spot.next, pieces]
  | @raw c s _ _ quote backslash _ ih =>
    have passed := piecesFrom_inside (List.forall_mem_singleton.2 ⟨quote, backslash⟩)
      (s ++ '"' :: rest)
    simpa [ih] using passed
  | escape _ _ ih => simp [escaped, ih]
  | unit hex _ _ _ ih => simp [escaped, piecesFrom_inside hex.plain, ih]
  | pair hex _ moreHex _ _ ih =>
    simp [escaped, piecesFrom_inside hex.plain, piecesFrom_inside moreHex.plain, ih]

theorem reads_string {s text : List Char} (body : JsonChars s text) (rest : List Char) :
    Reads ('"' :: (s ++ ['"'])) rest (('"' :: (s ++ ['"'])).map .other) := by
  have opened : pieces ('"' :: (s ++ '"' :: rest)) =
      .other '"' :: piecesFrom .inside (s ++ '"' :: rest) := by
    have mark : isMark '"' = true := by decide
    simp [pieces, piecesFrom, Spot.completed, Spot.next, mark]
  simpa [Reads, piecesFrom_chars body] using opened

end DocSearch.Literal
