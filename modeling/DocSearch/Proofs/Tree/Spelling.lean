import DocSearch.Proofs.Text.Pieces
import DocSearch.Proofs.Tree.Ways

/- Spellings of a path. A path that leads to a file leads there in its plainest spelling too, and the
one path of what stands at a place is its own plainest spelling. -/
namespace DocSearch.FileTree
open Node

theorem parts_append (front rest : String) :
    parts (front ++ "/" ++ rest) = parts front ++ parts rest := by
  have text : (front ++ "/" ++ rest).toList = front.toList ++ '/' :: rest.toList := by simp
  rw [parts, text, Text.split_separated _ (by decide), List.map_append, parts, parts]

theorem parts_whole {part : String} (whole : '/' ∉ part.toList) : parts part = [part] := by
  have whole : ∀ c ∈ part.toList, (c == '/') = false := by
    intro c member
    exact beq_eq_false_iff_ne.2 fun same => whole (same ▸ member)
  rw [parts, Text.split_whole whole, List.map_singleton, String.ofList_toList]

theorem parts_slash {part : String} (whole : '/' ∉ part.toList) (rest : String) :
    parts (part ++ "/" ++ rest) = part :: parts rest := by
  rw [parts_append, parts_whole whole, List.singleton_append]

theorem parts_ne_nil (path : String) : parts path ≠ [] := by
  rw [parts, ne_eq, List.map_eq_nil_iff]
  exact Text.split_ne_nil _

theorem slash_not_mem {path part : String} (member : part ∈ parts path) : '/' ∉ part.toList := by
  obtain ⟨piece, inside, rfl⟩ := List.mem_map.1 member
  rw [String.toList_ofList]
  intro slash
  exact absurd (Text.not_separates_of_mem_split inside '/' slash) (by decide)

theorem parts_intercalate {names : List String} (filled : names ≠ [])
    (whole : ∀ name ∈ names, '/' ∉ name.toList) : parts ("/".intercalate names) = names := by
  induction names with
  | nil => exact absurd rfl filled
  | cons name names ih =>
    obtain ⟨first, later⟩ := List.forall_mem_cons.1 whole
    by_cases last : names = []
    · rw [last, String.intercalate_singleton, parts_whole first]
    · rw [String.intercalate_cons_of_ne_nil last, parts_slash first, ih last later]

theorem intercalate_parts (path : String) : "/".intercalate (parts path) = path := by
  apply String.toList_inj.1
  have pieces : (parts path).map String.toList = Text.split (· == '/') path.toList := by
    simp [parts, Function.comp_def]
  rw [String.toList_intercalate, pieces]
  exact Text.intercalate_split '/' path.toList

inductive Lead : String → List String → Prop
  | root : Lead "/" [""]
  | here : Lead "./" ["."]
  | name : Lead "" []

theorem Lead.parts {text : String} {front : List String} (lead : Lead text front) (rest : String) :
    parts (text ++ rest) = front ++ parts rest := by
  cases lead with
  | root => exact parts_slash (by decide : '/' ∉ "".toList) rest
  | here => exact parts_slash (by decide : '/' ∉ ".".toList) rest
  | name => rw [String.empty_append, List.nil_append]

theorem parts_of_absolute {path : String} (absolute : isAbsolute path = true) :
    ∃ rest, parts path = "" :: rest := by
  obtain ⟨tail, text⟩ := List.head?_eq_some_iff.1 (of_decide_eq_true absolute)
  exact ⟨_, by rw [parts, text]; rfl⟩

theorem exists_lead {path : String} (filled : moving (parts path) ≠ []) :
    ∃ text front rest, Lead text front ∧ (isAbsolute path = true ↔ text = "/") ∧
      ((parts path).head? = some "." ↔ text = "./") ∧ path = text ++ "/".intercalate rest ∧
      parts path = front ++ rest ∧ plain path = text ++ "/".intercalate (moving rest) ∧
        moving rest ≠ [] := by
  have spelled : plain path = (if isAbsolute path then "/"
      else if (parts path).head? = some "." then "./" else "") ++
        "/".intercalate (moving (parts path)) := rfl
  have whole := intercalate_parts path
  -- An empty part or a dot in front is not a name, and something has to follow it.
  have behind {front : String} {rest : List String} (blank : front = "" ∨ front = ".")
      (split : parts path = front :: rest) : moving (parts path) = moving rest ∧
        path = front ++ "/" ++ "/".intercalate rest := by
    have same : moving (front :: rest) = moving rest :=
      List.filter_cons_of_neg (by rcases blank with rfl | rfl <;> decide)
    have more : rest ≠ [] := by
      rintro rfl
      rw [split, same] at filled
      exact filled rfl
    rw [split, String.intercalate_cons_of_ne_nil more] at whole
    exact ⟨split ▸ same, whole.symm⟩
  by_cases absolute : isAbsolute path = true
  · obtain ⟨rest, split⟩ := parts_of_absolute absolute
    obtain ⟨same, text⟩ := behind (Or.inl rfl) split
    rw [if_pos absolute, same] at spelled
    exact ⟨"/", [""], rest, .root, by simp [absolute], by simp [split], text, split, spelled,
      same ▸ filled⟩
  · by_cases dot : (parts path).head? = some "."
    · obtain ⟨rest, split⟩ := List.head?_eq_some_iff.1 dot
      obtain ⟨same, text⟩ := behind (Or.inr rfl) split
      rw [if_neg absolute, if_pos dot, same] at spelled
      exact ⟨"./", ["."], rest, .here, by simp [absolute], by simp [split], text, split, spelled,
        same ▸ filled⟩
    · rw [if_neg absolute, if_neg dot] at spelled
      exact ⟨"", [], parts path, .name, by simp [absolute], by simp [dot],
        by rw [whole, String.empty_append], rfl, spelled, filled⟩

theorem intercalate_sublist {a b : List String} (inside : a.Sublist b) :
    ("/".intercalate a).toList.Sublist ("/".intercalate b).toList := by
  induction inside with
  | slnil => exact List.Sublist.refl _
  | @cons a b name inside ih =>
    by_cases last : b = []
    · subst last
      rw [List.sublist_nil.1 inside]
      exact List.nil_sublist _
    · rw [String.intercalate_cons_of_ne_nil last, String.toList_append]
      exact ih.trans (List.sublist_append_right _ _)
  | @cons_cons a b name inside ih =>
    by_cases last : a = []
    · subst last
      rw [String.intercalate_singleton]
      by_cases lastToo : b = []
      · rw [lastToo, String.intercalate_singleton]
      · rw [String.intercalate_cons_of_ne_nil lastToo, String.toList_append, String.toList_append,
          List.append_assoc]
        exact List.sublist_append_left _ _
    · have more : b ≠ [] := fun none => last (List.sublist_nil.1 (none ▸ inside))
      rw [String.intercalate_cons_of_ne_nil last, String.intercalate_cons_of_ne_nil more,
        String.toList_append, String.toList_append (s := name ++ "/")]
      exact (List.Sublist.refl _).append ih

theorem utf8ByteSize_le {a b : List Char} (inside : a.Sublist b) :
    (String.ofList a).utf8ByteSize ≤ (String.ofList b).utf8ByteSize := by
  induction inside with
  | slnil => exact Nat.le_refl _
  | cons c _ ih => rw [String.ofList_cons, String.utf8ByteSize_append]; omega
  | cons_cons c _ ih =>
    rw [String.ofList_cons, String.ofList_cons, String.utf8ByteSize_append,
      String.utf8ByteSize_append]
    omega

section
variable {path : String} (filled : moving (parts path) ≠ [])
include filled

theorem plain_sublist : (plain path).toList.Sublist path.toList := by
  obtain ⟨text, front, rest, _, _, _, whole, _, spelled, _⟩ := exists_lead filled
  have whole : path.toList = text.toList ++ ("/".intercalate rest).toList := by
    rw [← String.toList_append, ← whole]
  rw [spelled, whole, String.toList_append]
  exact (List.Sublist.refl _).append (intercalate_sublist List.filter_sublist)

theorem exists_parts_plain : ∃ text front rest, Lead text front ∧
    (isAbsolute path = true ↔ text = "/") ∧ ((parts path).head? = some "." ↔ text = "./") ∧
      parts path = front ++ rest ∧ parts (plain path) = front ++ moving rest := by
  obtain ⟨text, front, rest, lead, absolute, dot, _, split, spelled, named⟩ := exists_lead filled
  refine ⟨text, front, rest, lead, absolute, dot, split, ?_⟩
  rw [spelled, lead.parts, parts_intercalate named]
  intro name member
  have inside : name ∈ parts path := by
    rw [split]
    exact List.mem_append_right _ (List.mem_of_mem_filter member)
  exact slash_not_mem inside

theorem thins_plain : Thins (parts path) (parts (plain path)) := by
  obtain ⟨text, front, rest, _, _, _, split, spelled⟩ := exists_parts_plain filled
  rw [spelled, split]
  exact (thins_moving rest).append_left front

theorem isAbsolute_plain : isAbsolute (plain path) = isAbsolute path := by
  obtain ⟨text, front, rest, lead, absolute, _, _, spelled⟩ := exists_parts_plain filled
  rw [Bool.eq_iff_iff, absolute]
  constructor
  · intro stays
    obtain ⟨tail, found⟩ := parts_of_absolute stays
    rw [spelled] at found
    cases lead with
    | root => rfl
    | here => exact absurd (List.cons.inj found).1 (by decide)
    | name =>
      have empty : "" ∈ moving rest := by
        rw [List.nil_append] at found
        rw [found]
        exact List.mem_cons_self
      exact absurd (List.mem_filter.1 empty).2 (by decide)
  · rintro rfl
    have first : (plain path).toList.head? = some '/' := by
      rw [plain, if_pos (absolute.2 rfl), String.toList_append]
      rfl
    exact decide_eq_true first

theorem plain_plain : plain (plain path) = plain path := by
  obtain ⟨text, front, rest, lead, _, dot, _, spelled⟩ := exists_parts_plain filled
  have names : moving (parts (plain path)) = moving (parts path) :=
    (thins_plain filled).moving_eq.symm
  have first : (parts (plain path)).head? = some "." ↔ (parts path).head? = some "." := by
    rw [dot, spelled]
    cases lead with
    | root => simp
    | here => simp
    | name =>
      constructor
      · intro found
        have member : "." ∈ moving rest := List.mem_of_head? found
        exact absurd (List.mem_filter.1 member).2 (by decide)
      · intro other
        exact absurd other (by decide)
  have spell (path : String) : plain path = (if isAbsolute path then "/"
      else if (parts path).head? = some "." then "./" else "") ++
        "/".intercalate (moving (parts path)) := rfl
  rw [spell (plain path), isAbsolute_plain filled, names]
  simp only [first]
  exact (spell path).symm

end

def IsName (name : String) : Prop := name ≠ "" ∧ name ≠ "." ∧ '/' ∉ name.toList

instance (name : String) : Decidable (IsName name) :=
  inferInstanceAs (Decidable (name ≠ "" ∧ name ≠ "." ∧ '/' ∉ name.toList))

theorem moving_names {names : List String} (all : ∀ name ∈ names, IsName name) :
    moving names = names := by
  apply List.filter_eq_self.2
  intro name member
  obtain ⟨filled, moves, _⟩ := all name member
  simp [filled, moves]

theorem plain_pathOf {names : List String} (all : ∀ name ∈ names, IsName name) :
    plain (pathOf names) = pathOf names := by
  have absolute : isAbsolute (pathOf names) = true := by
    simp [isAbsolute, pathOf]
  have split : parts (pathOf names) = "" :: parts ("/".intercalate names) := by
    rw [pathOf, Lead.root.parts]
    rfl
  have moves : moving (parts (pathOf names)) = names := by
    rw [split]
    by_cases none : names = []
    · rw [none]
      decide
    · rw [parts_intercalate none fun name member => (all name member).2.2]
      exact (List.filter_cons_of_neg (by decide)).trans (moving_names all)
  rw [plain, if_pos absolute]
  exact congrArg (fun names => "/" ++ "/".intercalate names) moves

theorem Leads.isName {root : Node} {links : Nat} {here parts place : List String}
    (leads : Leads root links here parts place) (start : ∀ name ∈ here, IsName name)
    (whole : ∀ part ∈ parts, '/' ∉ part.toList) : ∀ name ∈ place, IsName name := by
  induction leads with
  | arrived => exact start
  | stay _ _ _ ih => exact ih start (List.forall_mem_cons.1 whole).2
  | up _ _ ih =>
    exact ih (fun name member => start name ((List.dropLast_sublist _).subset member))
      (List.forall_mem_cons.1 whole).2
  | enter _ name _ _ _ _ ih =>
    obtain ⟨first, later⟩ := List.forall_mem_cons.1 whole
    refine ih (fun other member => ?_) later
    rcases List.mem_append.1 member with old | new
    · exact start other old
    · rw [List.mem_singleton.1 new]
      exact ⟨name.1, name.2.1, first⟩
  | @follow _ here _ _ _ target _ _ _ _ _ ih =>
    refine ih (fun other member => ?_) (fun part member => ?_)
    · split at member
      · cases member
      · exact start other member
    · rcases List.mem_append.1 member with inTarget | later
      · exact slash_not_mem inTarget
      · exact (List.forall_mem_cons.1 whole).2 part later

section
variable {tree : FileTree} {path : String}

theorem resolve_eq_ok {place : List String} : tree.resolve path = .ok place ↔
    '\x00' ∉ path.toList ∧ path ≠ "" ∧ path.utf8ByteSize ≤ maxPathSize ∧
      Leads tree.root maxLinks (if isAbsolute path then [] else tree.working) (parts path) place := by
  unfold resolve
  rw [String.contains_char_eq, ← walk_eq_ok]
  split
  · rename_i nul
    simp [of_decide_eq_true nul]
  · rename_i noNul
    have noNul : '\x00' ∉ path.toList := by simpa using noNul
    split
    · rename_i empty
      simp [String.isEmpty_iff.1 empty]
    · rename_i filled
      have filled : path ≠ "" := mt String.isEmpty_iff.2 filled
      split
      · rename_i long
        simp [Nat.not_le.2 long]
      · rename_i short
        simp [noNul, filled, Nat.not_lt.1 short]

def StartsAtNames (tree : FileTree) : Prop := ∀ name ∈ tree.working, IsName name

theorem plain_canonical (start : tree.StartsAtNames) {resolved : String}
    (found : tree.canonical path = .ok resolved) : plain resolved = resolved := by
  obtain ⟨place, resolved, rfl⟩ := map_eq_ok.1 found
  obtain ⟨_, _, _, leads⟩ := resolve_eq_ok.1 resolved
  apply plain_pathOf
  refine leads.isName (fun name member => ?_) fun part => slash_not_mem
  split at member
  · cases member
  · exact start name member

theorem plain_ne_empty (filled : moving (parts path) ≠ []) : plain path ≠ "" := by
  intro empty
  have same := (thins_plain filled).moving_eq
  rw [empty] at same
  exact filled same

theorem moving_of_file {data : FileData} (found : tree.file path = .ok data) :
    moving (parts path) ≠ [] := by
  intro none
  obtain ⟨place, resolved, there⟩ := node_eq_ok.1 (file_eq_ok.1 found)
  obtain ⟨_, _, _, leads⟩ := resolve_eq_ok.1 resolved
  obtain ⟨same, inside⟩ := leads.stays none
  have inside := inside (parts_ne_nil path)
  rw [← same, kindAt, there] at inside
  cases inside

/-- What can be read under some spelling of a path can be read under the plainest one. -/
theorem file_plain {data : FileData} (found : tree.file path = .ok data) :
    tree.file (plain path) = .ok data := by
  obtain ⟨place, resolved, there⟩ := node_eq_ok.1 (file_eq_ok.1 found)
  obtain ⟨noNul, _, short, leads⟩ := resolve_eq_ok.1 resolved
  have filled := moving_of_file found
  have thinner := plain_sublist filled
  refine file_eq_ok.2 (node_eq_ok.2 ⟨place, ?_, there⟩)
  refine resolve_eq_ok.2 ⟨?_, plain_ne_empty filled, ?_, ?_⟩
  · exact fun nul => noNul (thinner.subset nul)
  · have smaller := utf8ByteSize_le thinner
    rw [String.ofList_toList, String.ofList_toList] at smaller
    exact Nat.le_trans smaller short
  · rw [isAbsolute_plain filled]
    exact leads.thins (thins_plain filled)

end

end DocSearch.FileTree
