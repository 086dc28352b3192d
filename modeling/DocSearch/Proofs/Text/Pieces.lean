import Mathlib.Data.List.TakeWhile
import DocSearch.Text.Basic

/- Cutting text at separators: where one stands, the pieces before and behind it are independent, and where
none stands, one piece reaches from one part of the text into the other. -/
namespace DocSearch.Text

section
variable {p : Char → Bool} {run rest : List Char}

theorem takeWhile_run (all : ∀ c ∈ run, p c = true) (stop : ∀ c ∈ rest.head?, p c = false) :
    (run ++ rest).takeWhile p = run := by
  rw [List.takeWhile_append_of_pos all]
  cases rest with
  | nil => simp
  | cons c rest => simp [stop c rfl]

theorem dropWhile_run (all : ∀ c ∈ run, p c = true) (stop : ∀ c ∈ rest.head?, p c = false) :
    (run ++ rest).dropWhile p = rest := by
  rw [List.dropWhile_append_of_pos all]
  cases rest with
  | nil => rfl
  | cons c rest => simp [stop c rfl]

theorem takeWhile_all (s : List Char) : ∀ c ∈ s.takeWhile p, p c = true := by
  intro c member
  exact List.mem_takeWhile_imp member

variable {mark : Char}

theorem differs_of_unmarked (unmarked : mark ∉ run) : ∀ c ∈ run, decide (c ≠ mark) = true := by
  intro c member
  apply decide_eq_true
  rintro rfl
  exact unmarked member

theorem takeWhile_before (unmarked : mark ∉ run) (rest : List Char) :
    (run ++ mark :: rest).takeWhile (· ≠ mark) = run :=
  takeWhile_run (differs_of_unmarked unmarked) (by simp)

theorem dropWhile_before (unmarked : mark ∉ run) (rest : List Char) :
    (run ++ mark :: rest).dropWhile (· ≠ mark) = mark :: rest :=
  dropWhile_run (differs_of_unmarked unmarked) (by simp)

theorem split_at_mark {s : List Char} {c : Char}
    (cut : s.dropWhile (· ≠ mark) = c :: rest) : s = s.takeWhile (· ≠ mark) ++ mark :: rest := by
  have stop := List.head?_dropWhile_not (fun c : Char => decide (c ≠ mark)) s
  rw [cut] at stop
  obtain rfl : c = mark := by simpa using stop
  exact cut ▸ List.takeWhile_append_dropWhile.symm

theorem dropWhile_unmarked (unmarked : mark ∉ run) : run.dropWhile (· ≠ mark) = [] :=
  List.dropWhile_eq_nil_iff.2 (differs_of_unmarked unmarked)

end

variable {separates : Char → Bool}

theorem piecesFrom_append (current s : List Char) {c : Char} (between : separates c = true)
    (rest : List Char) : piecesFrom separates current (s ++ c :: rest) =
      piecesFrom separates current s ++ pieces separates rest := by
  induction s generalizing current with
  | nil =>
    simp only [List.nil_append, piecesFrom, between, if_true, pieces]
    split <;> rfl
  | cons d s ih =>
    simp only [List.cons_append, piecesFrom]
    split
    · split
      · exact ih []
      · rw [ih [], List.cons_append]
    · exact ih (d :: current)

theorem pieces_behind_separators {between : List Char} (all : ∀ c ∈ between, separates c = true)
    (s : List Char) : pieces separates (between ++ s) = pieces separates s := by
  induction between with
  | nil => rfl
  | cons c between ih =>
    obtain ⟨first, later⟩ := List.forall_mem_cons.1 all
    rw [List.cons_append, pieces, piecesFrom, if_pos first, if_pos List.isEmpty_nil]
    exact ih later

theorem pieces_separated {between : List Char} (filled : between ≠ [])
    (all : ∀ c ∈ between, separates c = true) (a b : List Char) :
    pieces separates (a ++ between ++ b) = pieces separates a ++ pieces separates b := by
  obtain ⟨c, between, rfl⟩ := List.exists_cons_of_ne_nil filled
  obtain ⟨first, later⟩ := List.forall_mem_cons.1 all
  rw [List.append_assoc, List.cons_append, pieces, piecesFrom_append [] a first,
    pieces_behind_separators later]
  rfl

theorem piecesFrom_run {current s : List Char} (filled : current.reverse ++ s ≠ [])
    (run : ∀ c ∈ s, separates c = false) :
    piecesFrom separates current s = [current.reverse ++ s] := by
  induction s generalizing current with
  | nil =>
    have filled : current ≠ [] := by simpa using filled
    simp [piecesFrom, filled]
  | cons c s ih =>
    obtain ⟨first, later⟩ := List.forall_mem_cons.1 run
    have same : (c :: current).reverse ++ s = current.reverse ++ c :: s := by simp
    rw [piecesFrom, first, if_neg Bool.false_ne_true, ih (same ▸ filled) later, same]

theorem of_mem_piecesFrom {current s piece : List Char} (unbroken : ∀ c ∈ current, separates c = false)
    (member : piece ∈ piecesFrom separates current s) :
    (∀ c ∈ piece, separates c = false) ∧ piece <:+: current.reverse ++ s := by
  induction s generalizing current with
  | nil =>
    rw [piecesFrom] at member
    split at member
    · cases member
    · rw [List.mem_singleton.1 member, List.append_nil]
      exact ⟨fun c inside => unbroken c (List.mem_reverse.1 inside), List.infix_rfl⟩
  | cons d s ih =>
    have later : s <:+: current.reverse ++ d :: s :=
      ((List.suffix_cons d s).trans (List.suffix_append _ _)).isInfix
    have next (member : piece ∈ piecesFrom separates [] s) :
        (∀ c ∈ piece, separates c = false) ∧ piece <:+: current.reverse ++ d :: s := by
      obtain ⟨whole, inside⟩ := ih (by simp) member
      exact ⟨whole, inside.trans later⟩
    rw [piecesFrom] at member
    split at member
    · split at member
      · exact next member
      · rcases List.mem_cons.1 member with rfl | rest
        · exact ⟨fun c inside => unbroken c (List.mem_reverse.1 inside),
            (List.prefix_append _ _).isInfix⟩
        · exact next rest
    · rename_i within
      have within : separates d = false := by simpa using within
      have same : (d :: current).reverse ++ s = current.reverse ++ d :: s := by simp
      exact same ▸ ih (List.forall_mem_cons.2 ⟨within, unbroken⟩) member

theorem of_mem_pieces {s piece : List Char} (member : piece ∈ pieces separates s) :
    (∀ c ∈ piece, separates c = false) ∧ piece <:+: s :=
  of_mem_piecesFrom (by simp) member

theorem piecesFrom_underway {current : List Char} (filled : current ≠ []) (s : List Char) :
    ∃ first rest, piecesFrom separates current s = first :: rest ∧ ∀ piece ∈ rest, piece <:+: s := by
  induction s generalizing current with
  | nil => exact ⟨current.reverse, [], by simp [piecesFrom, filled], by simp⟩
  | cons d s ih =>
    rw [piecesFrom]
    split
    · refine ⟨current.reverse, pieces separates s, by simp [filled, pieces], fun piece member => ?_⟩
      exact List.infix_cons (of_mem_pieces member).2
    · obtain ⟨first, rest, found, inside⟩ := ih (List.cons_ne_nil d current)
      exact ⟨first, rest, found, fun piece member => List.infix_cons (inside piece member)⟩

theorem piecesFrom_around (current a b : List Char) {c : Char} (within : separates c = false) :
    ∃ front middle back, piecesFrom separates current (a ++ c :: b) = front ++ middle :: back ∧
      (∀ piece ∈ front, piece <:+: current.reverse ++ a) ∧ ∀ piece ∈ back, piece <:+: b := by
  induction a generalizing current with
  | nil =>
    obtain ⟨middle, back, found, inside⟩ :=
      @piecesFrom_underway separates _ (List.cons_ne_nil c current) b
    exact ⟨[], middle, back, by simp [piecesFrom, within, found], by simp, inside⟩
  | cons d a ih =>
    rw [List.cons_append, piecesFrom]
    split
    · obtain ⟨front, middle, back, found, before, behind⟩ := ih []
      have before (piece : List Char) (member : piece ∈ front) :
          piece <:+: current.reverse ++ d :: a :=
        (before piece member).trans ((List.suffix_cons d a).trans (List.suffix_append _ _)).isInfix
      split
      · exact ⟨front, middle, back, found, before, behind⟩
      · refine ⟨current.reverse :: front, middle, back, by rw [found]; rfl, ?_, behind⟩
        exact List.forall_mem_cons.2 ⟨(List.prefix_append _ _).isInfix, before⟩
    · obtain ⟨front, middle, back, found, before, behind⟩ := ih (d :: current)
      have same : (d :: current).reverse ++ a = current.reverse ++ d :: a := by simp
      exact ⟨front, middle, back, found, same ▸ before, behind⟩

/-- Of the pieces of a text only one can reach across a character between two parts of it. -/
theorem pieces_around (a b : List Char) {c : Char} (within : separates c = false) :
    ∃ front middle back, pieces separates (a ++ c :: b) = front ++ middle :: back ∧
      (∀ piece ∈ front, piece <:+: a) ∧ ∀ piece ∈ back, piece <:+: b :=
  piecesFrom_around [] a b within

theorem infix_separated {part a b : List Char} {c : Char} (unbroken : c ∉ part) :
    part <:+: a ++ c :: b ↔ part <:+: a ∨ part <:+: b := by
  constructor
  · intro inside
    rcases List.infix_append_iff.1 inside with left | right | ⟨l, r, rfl, left, right⟩
    · exact Or.inl left
    · rcases List.infix_cons_iff.1 right with start | later
      · rcases List.prefix_cons_iff.1 start with rfl | ⟨t, rfl, _⟩
        · exact Or.inl (List.nil_infix)
        · exact absurd List.mem_cons_self unbroken
      · exact Or.inr later
    · rcases List.prefix_cons_iff.1 right with rfl | ⟨t, rfl, _⟩
      · exact Or.inl (by simpa using left.isInfix)
      · exact absurd (by simp) unbroken
  · rintro (left | right)
    · exact left.trans (List.prefix_append _ _).isInfix
    · exact right.trans ((List.suffix_cons c b).trans (List.suffix_append _ _)).isInfix

theorem not_separates_of_mem_split {s part : List Char} (member : part ∈ split separates s) :
    ∀ c ∈ part, separates c = false := by
  induction s generalizing part with
  | nil =>
    rw [split, List.mem_singleton] at member
    simp [member]
  | cons c s ih =>
    rw [split] at member
    split at member
    · rcases List.mem_cons.1 member with rfl | later
      · simp
      · exact ih later
    · rename_i inside
      have inside : separates c = false := by simpa using inside
      cases found : split separates s with
      | nil =>
        rw [found] at member
        rw [List.mem_singleton.1 member]
        simpa using inside
      | cons first rest =>
        rw [found] at member ih
        rcases List.mem_cons.1 member with rfl | later
        · exact List.forall_mem_cons.2 ⟨inside, ih (by simp)⟩
        · exact ih (List.mem_cons_of_mem _ later)

theorem split_whole {part : List Char} (whole : ∀ c ∈ part, separates c = false) :
    split separates part = [part] := by
  induction part with
  | nil => rfl
  | cons d part ih =>
    obtain ⟨first, later⟩ := List.forall_mem_cons.1 whole
    rw [split, if_neg (by simp [first]), ih later]

theorem split_ne_nil (s : List Char) : split separates s ≠ [] := by
  cases s with
  | nil => exact List.cons_ne_nil _ _
  | cons c s =>
    rw [split]
    split
    · exact List.cons_ne_nil _ _
    · split <;> exact List.cons_ne_nil _ _

theorem split_separated (s : List Char) {c : Char} (between : separates c = true)
    (rest : List Char) :
    split separates (s ++ c :: rest) = split separates s ++ split separates rest := by
  induction s with
  | nil => rw [List.nil_append, split.eq_2, if_pos between, split, List.singleton_append]
  | cons d s ih =>
    have filled : split separates s ≠ [] := split_ne_nil s
    obtain ⟨part, parts, found⟩ := List.exists_cons_of_ne_nil filled
    rw [List.cons_append, split, split, ih, found]
    split <;> rfl

theorem intercalate_split (c : Char) (s : List Char) :
    [c].intercalate (split (· == c) s) = s := by
  induction s with
  | nil => rfl
  | cons d s ih =>
    have filled : split (· == c) s ≠ [] := split_ne_nil s
    obtain ⟨first, rest, found⟩ := List.exists_cons_of_ne_nil filled
    rw [found] at ih
    rw [split, found]
    split
    · rename_i same
      rw [List.intercalate_cons_cons, ih, eq_of_beq same]
      rfl
    · cases rest with
      | nil => rw [List.intercalate_singleton] at ih ⊢; rw [ih]
      | cons second rest =>
        rw [List.intercalate_cons_cons] at ih ⊢
        rw [← ih]
        rfl

end DocSearch.Text
