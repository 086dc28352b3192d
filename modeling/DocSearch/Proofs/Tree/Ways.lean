import DocSearch.Proofs.Tree.Outline

/- Ways through a file tree. Parts of a path that stay where they are can be left out: what is left
leads to the same place. -/
namespace DocSearch.FileTree
open Node

/-- How a walk goes that follows at most `links` links. -/
inductive Leads (root : Node) : (links : Nat) → (here parts place : List String) → Prop
  | arrived {links : Nat} {here : List String} : Leads root links here [] here
  | stay {links : Nat} {here rest place : List String} {part : String}
    (inside : kindAt root here = some .directory) (blank : part = "" ∨ part = ".")
    (onward : Leads root links here rest place) : Leads root links here (part :: rest) place
  | up {links : Nat} {here rest place : List String}
    (inside : kindAt root here = some .directory)
    (onward : Leads root links here.dropLast rest place) : Leads root links here (".." :: rest) place
  | enter {links : Nat} {here rest place : List String} {part : String} {kind : Node.Kind}
    (inside : kindAt root here = some .directory) (name : part ≠ "" ∧ part ≠ "." ∧ part ≠ "..")
    (short : part.utf8ByteSize ≤ maxNameSize) (found : kindAt root (here ++ [part]) = some kind)
    (noLink : ∀ target, kind ≠ .link target)
    (onward : Leads root links (here ++ [part]) rest place) : Leads root links here (part :: rest) place
  | follow {links : Nat} {here rest place : List String} {part target : String}
    (inside : kindAt root here = some .directory) (name : part ≠ "" ∧ part ≠ "." ∧ part ≠ "..")
    (short : part.utf8ByteSize ≤ maxNameSize)
    (found : kindAt root (here ++ [part]) = some (.link target))
    (onward : Leads root links (if isAbsolute target then [] else here) (parts target ++ rest) place) :
    Leads root (links + 1) here (part :: rest) place

section
variable {root : Node} {links : Nat} {here parts place : List String}

theorem leads_of_walkParts {follow : List String → List String → Except FileFault (List String)}
    (follows : ∀ {here parts place}, follow here parts = .ok place →
      ∃ fewer, links = fewer + 1 ∧ Leads root fewer here parts place)
    (walked : walkParts root follow here parts = .ok place) : Leads root links here parts place := by
  induction parts generalizing here with
  | nil =>
    cases walked
    exact .arrived
  | cons part rest ih =>
    rw [walkParts_cons] at walked
    split at walked
    · rename_i inside
      split at walked
      · rename_i blank
        exact .stay inside (by simpa using blank) (ih walked)
      · rename_i notBlank
        split at walked
        · rename_i isUp
          rw [isUp]
          exact .up inside (ih walked)
        · rename_i notUp
          have name : part ≠ "" ∧ part ≠ "." ∧ part ≠ ".." := by
            simp only [Bool.or_eq_true, decide_eq_true_eq, not_or] at notBlank
            exact ⟨notBlank.1, notBlank.2, notUp⟩
          split at walked
          · cases walked
          · rename_i short
            have short := Nat.not_lt.1 short
            split at walked
            · cases walked
            · rename_i target found
              obtain ⟨fewer, rfl, onward⟩ := follows walked
              exact .follow inside name short found onward
            · rename_i kind noLink found
              exact .enter inside name short found (fun target same => noLink target same)
                (ih walked)
    · cases walked

theorem walk_eq_ok : walk root links here parts = .ok place ↔ Leads root links here parts place := by
  constructor
  · intro walked
    induction links generalizing here parts place with
    | zero => exact leads_of_walkParts (fun followed => by cases followed) walked
    | succ links ih => exact leads_of_walkParts (fun followed => ⟨links, rfl, ih followed⟩) walked
  · intro leads
    have opened (links : Nat) : ∃ follow, walk root links = walkParts root follow := by
      cases links <;> exact ⟨_, rfl⟩
    induction leads with
    | @arrived links =>
      obtain ⟨follow, same⟩ := opened links
      rw [same]
      rfl
    | @stay links _ _ _ _ inside blank _ ih =>
      obtain ⟨follow, same⟩ := opened links
      rw [same] at ih ⊢
      rw [walkParts_cons, if_pos inside, if_pos (by simpa using blank), ih]
    | @up links _ _ _ inside _ ih =>
      obtain ⟨follow, same⟩ := opened links
      rw [same] at ih ⊢
      rw [walkParts_cons, if_pos inside, if_neg (by decide), if_pos rfl, ih]
    | @enter links _ _ _ _ kind inside name short found noLink _ ih =>
      obtain ⟨follow, same⟩ := opened links
      rw [same] at ih ⊢
      rw [walkParts_cons, if_pos inside, if_neg (by simp [name.1, name.2.1]), if_neg name.2.2,
        if_neg (Nat.not_lt.2 short), found]
      cases kind with
      | link target => exact absurd rfl (noLink target)
      | file | directory => exact ih
    | follow inside name short found _ ih =>
      rw [walk, walkParts_cons, if_pos inside, if_neg (by simp [name.1, name.2.1]),
        if_neg name.2.2, if_neg (Nat.not_lt.2 short), found]
      exact ih

end

/-- The same parts without some that stay where they are. -/
inductive Thins : List String → List String → Prop
  | done : Thins [] []
  | keep {a b : List String} (part : String) (rest : Thins a b) : Thins (part :: a) (part :: b)
  | drop {a b : List String} {part : String} (blank : part = "" ∨ part = ".") (rest : Thins a b) :
    Thins (part :: a) b

theorem Thins.append_left {a b : List String} (front : List String) (thins : Thins a b) :
    Thins (front ++ a) (front ++ b) := by
  induction front with
  | nil => exact thins
  | cons part front ih => exact .keep part ih

def moving (parts : List String) : List String := parts.filter fun name => name ≠ "" && name ≠ "."

theorem thins_moving (parts : List String) : Thins parts (moving parts) := by
  induction parts with
  | nil => exact .done
  | cons part rest ih =>
    by_cases moves : part ≠ "" ∧ part ≠ "."
    · rw [moving, List.filter_cons_of_pos (by simpa using moves)]
      exact .keep part ih
    · rw [moving, List.filter_cons_of_neg (by simpa using moves)]
      exact .drop (by simpa [← or_iff_not_imp_left] using moves) ih

theorem Thins.moving_eq {a b : List String} (thins : Thins a b) : moving a = moving b := by
  induction thins with
  | done => rfl
  | keep part _ ih => simp only [moving, List.filter_cons] at ih ⊢; rw [ih]
  | drop blank _ ih =>
    rw [← ih]
    exact List.filter_cons_of_neg (by rcases blank with rfl | rfl <;> decide)

theorem Leads.stays {root : Node} {links : Nat} {here parts place : List String}
    (leads : Leads root links here parts place) (none : moving parts = []) :
    place = here ∧ (parts ≠ [] → kindAt root here = some .directory) := by
  have moves {part : String} {rest : List String} (name : part ≠ "" ∧ part ≠ ".") :
      moving (part :: rest) ≠ [] := by
    rw [moving, List.filter_cons_of_pos (by simpa using name)]
    exact List.cons_ne_nil _ _
  induction leads with
  | arrived => exact ⟨rfl, fun some => absurd rfl some⟩
  | stay inside blank _ ih =>
    rw [moving, List.filter_cons_of_neg (by rcases blank with rfl | rfl <;> decide)] at none
    exact ⟨(ih none).1, fun _ => inside⟩
  | up => exact absurd none (moves (by decide))
  | enter _ name => exact absurd none (moves ⟨name.1, name.2.1⟩)
  | follow _ name => exact absurd none (moves ⟨name.1, name.2.1⟩)

theorem Leads.thins {root : Node} {links : Nat} {here parts thinner place : List String}
    (leads : Leads root links here parts place) (thins : Thins parts thinner) :
    Leads root links here thinner place := by
  -- A part that stays is the only one that can be missing.
  induction leads generalizing thinner with
  | arrived =>
    cases thins
    exact .arrived
  | stay inside blank _ ih =>
    cases thins with
    | keep _ rest => exact .stay inside blank (ih rest)
    | drop _ rest => exact ih rest
  | up inside _ ih =>
    cases thins with
    | keep _ rest => exact .up inside (ih rest)
    | drop blank _ => exact absurd blank (by decide)
  | enter inside name short found noLink _ ih =>
    cases thins with
    | keep _ rest => exact .enter inside name short found noLink (ih rest)
    | drop blank _ => exact absurd blank (not_or.2 ⟨name.1, name.2.1⟩)
  | follow inside name short found _ ih =>
    cases thins with
    | keep _ rest => exact .follow inside name short found (ih (rest.append_left _))
    | drop blank _ => exact absurd blank (not_or.2 ⟨name.1, name.2.1⟩)

end DocSearch.FileTree
