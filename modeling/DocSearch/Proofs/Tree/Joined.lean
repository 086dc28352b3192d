import Mathlib.Data.List.Lex
import DocSearch.Proofs.Tree.Spelling

/- Names joined to a path: the components that the path then has, how paths are ordered by their
components, and where the longer path leads. -/
namespace DocSearch.FileTree
open Node

inductive Component
  | root
  | here
  | up
  | name (text : String)

namespace Component

def rank : Component → Nat
  | root => 0
  | here => 1
  | up => 2
  | name _ => 3

def Before (a b : Component) : Prop :=
  a.rank < b.rank ∨ ∃ first second, a = name first ∧ b = name second ∧ first < second

instance : Std.Asymm Before where
  asymm := by
    rintro a b (lower | ⟨first, second, rfl, rfl, below⟩) (higher | ⟨third, fourth, same, other, above⟩)
    · exact Nat.lt_asymm lower higher
    · subst same other
      exact Nat.lt_irrefl _ lower
    · exact Nat.lt_irrefl _ higher
    · cases same
      cases other
      exact String.lt_asymm below above

theorem before_name {first second : String} :
    Before (name first) (name second) ↔ first < second := by
  simp [Before, rank]

end Component

/-- Slashes that are repeated or at the end count for nothing, nor does a dot, except one that a
relative path begins with. -/
def components (path : String) : List Component :=
  (if isAbsolute path then [.root] else if (parts path).head? = some "." then [.here] else []) ++
    (moving (parts path)).map fun part => if part = ".." then .up else .name part

/-- Fewer components first, then component by component. -/
def ComesBefore (a b : String) : Prop :=
  (components a).length < (components b).length ∨
    (components a).length = (components b).length ∧
      List.Lex Component.Before (components a) (components b)

structure IsFileName (name : String) : Prop where
  isName : IsName name
  notUp : name ≠ ".."
  noNul : '\x00' ∉ name.toList
  short : name.utf8ByteSize ≤ maxNameSize

instance (name : String) : Decidable (IsFileName name) :=
  decidable_of_iff
    (IsName name ∧ name ≠ ".." ∧ '\x00' ∉ name.toList ∧ name.utf8ByteSize ≤ maxNameSize)
    ⟨fun ⟨isName, notUp, noNul, short⟩ => ⟨isName, notUp, noNul, short⟩,
      fun ⟨isName, notUp, noNul, short⟩ => ⟨isName, notUp, noNul, short⟩⟩

theorem isAbsolute_append {path : String} (filled : path ≠ "") (rest : String) :
    isAbsolute (path ++ rest) = isAbsolute path := by
  have some : path.toList ≠ [] := mt String.toList_eq_nil_iff.1 filled
  rw [isAbsolute, String.toList_append, List.head?_append_of_ne_nil _ some, isAbsolute]

section
variable {path name : String} (filled : path ≠ "") (isName : IsName name)
include filled isName

theorem exists_join : ∃ front rest, join path name = front ++ "/" ++ name ∧
    join path name = path ++ rest ∧ (path = front ∨ path = front ++ "/") := by
  have relative : isAbsolute name = false := by
    apply decide_eq_false
    intro first
    exact isName.2.2 (List.mem_of_head? first)
  rw [join, relative, if_neg Bool.false_ne_true]
  by_cases slash : path.toList.getLast? = some '/'
  · obtain ⟨front, text⟩ := List.getLast?_eq_some_iff.1 slash
    have whole : path = String.ofList front ++ "/" := String.toList_inj.1 (by simp [text])
    rw [if_pos (by simp [slash])]
    exact ⟨String.ofList front, name, by rw [← whole], rfl, Or.inr whole⟩
  · rw [if_neg (by simp [slash, String.isEmpty_iff, filled])]
    exact ⟨path, "/" ++ name, rfl, String.append_assoc .., Or.inl rfl⟩

theorem join_ne_empty : join path name ≠ "" := by
  obtain ⟨front, rest, _, longer, _⟩ := exists_join filled isName
  rw [longer]
  simp [filled]

theorem isAbsolute_join : isAbsolute (join path name) = isAbsolute path := by
  obtain ⟨front, rest, _, longer, _⟩ := exists_join filled isName
  rw [longer, isAbsolute_append filled]

theorem nul_not_mem_join (noNul : '\x00' ∉ path.toList) (clean : '\x00' ∉ name.toList) :
    '\x00' ∉ (join path name).toList := by
  obtain ⟨front, rest, joined, _, same⟩ := exists_join filled isName
  have cleanFront : '\x00' ∉ front.toList := by
    rcases same with rfl | rfl
    · exact noNul
    · simpa using noNul
  rw [joined]
  simp [cleanFront, clean]

theorem thins_join : Thins (parts path ++ [name]) (parts (join path name)) := by
  obtain ⟨front, rest, joined, _, same⟩ := exists_join filled isName
  rw [joined, parts_append, parts_whole isName.2.2]
  rcases same with rfl | rfl
  · exact .append_left _ (.keep name .done)
  · have slash : parts (front ++ "/") = parts front ++ [""] := by
      rw [← String.append_empty (s := front ++ "/"), parts_append]
      rfl
    rw [slash, List.append_assoc]
    exact .append_left _ (.drop (Or.inl rfl) (.keep name .done))

theorem head?_parts_join : (parts (join path name)).head? = (parts path).head? := by
  obtain ⟨front, rest, joined, _, same⟩ := exists_join filled isName
  have some := parts_ne_nil front
  rw [joined, parts_append, List.head?_append_of_ne_nil _ some]
  rcases same with rfl | rfl
  · rfl
  · rw [← String.append_empty (s := front ++ "/"), parts_append, List.head?_append_of_ne_nil _ some]

theorem components_join (notUp : name ≠ "..") :
    components (join path name) = components path ++ [.name name] := by
  have moves : moving [name] = [name] := moving_names (by simpa using isName)
  have names : moving (parts (join path name)) = moving (parts path) ++ [name] := by
    rw [← (thins_join filled isName).moving_eq, moving, List.filter_append]
    exact congrArg (moving (parts path) ++ ·) moves
  rw [components, isAbsolute_join filled isName, head?_parts_join filled isName, names,
    List.map_append, List.map_singleton, if_neg notUp, ← List.append_assoc, ← components]

end

theorem components_foldl_join {names : List String} (all : ∀ name ∈ names, IsFileName name)
    {path : String} (filled : path ≠ "") :
    components (names.foldl join path) = components path ++ names.map .name := by
  induction names generalizing path with
  | nil => simp
  | cons name names ih =>
    obtain ⟨first, later⟩ := List.forall_mem_cons.1 all
    rw [List.foldl_cons, ih later (join_ne_empty filled first.isName),
      components_join filled first.isName first.notUp, List.append_assoc, List.map_cons,
      List.singleton_append]

theorem foldl_join_usable {names : List String} (all : ∀ name ∈ names, IsFileName name)
    {path : String} (filled : path ≠ "") (noNul : '\x00' ∉ path.toList) :
    names.foldl join path ≠ "" ∧ '\x00' ∉ (names.foldl join path).toList ∧
      isAbsolute (names.foldl join path) = isAbsolute path := by
  induction names generalizing path with
  | nil => exact ⟨filled, noNul, rfl⟩
  | cons name names ih =>
    obtain ⟨first, later⟩ := List.forall_mem_cons.1 all
    obtain ⟨some, clean, same⟩ := ih later (join_ne_empty filled first.isName)
      (nul_not_mem_join filled first.isName noNul first.noNul)
    exact ⟨some, clean, same.trans (isAbsolute_join filled first.isName)⟩

theorem lex_names {a b : List String} (before : a < b) :
    List.Lex Component.Before (a.map .name) (b.map .name) := by
  induction before with
  | nil => exact .nil
  | cons _ ih => exact .cons ih
  | rel below => exact .rel (Component.before_name.2 below)

theorem ComesBefore.asymm {a b : String} (before : ComesBefore a b) : ¬ ComesBefore b a := by
  rintro after
  rcases before with shorter | ⟨same, before⟩
  · rcases after with longer | ⟨same, _⟩
    · exact Nat.lt_asymm shorter longer
    · omega
  · rcases after with longer | ⟨_, after⟩
    · omega
    · exact Std.Asymm.asymm _ _ before after

section
variable {root : Node} {links : Nat} {here parts place : List String}

theorem kindAt_front {name : String} {kind : Node.Kind}
    (found : kindAt root (place ++ [name]) = some kind) : kindAt root place = some .directory := by
  obtain ⟨node, there, _⟩ := Option.map_eq_some_iff.1 found
  rw [child?_append] at there
  obtain ⟨front, stands, inside⟩ := Option.bind_eq_some_iff.1 there
  cases front with
  | directory => rw [kindAt, stands]; rfl
  | file | link => cases inside

/-- What a file stands behind is entered, not followed. -/
theorem kindAt_before_file {name : String} {below : List String}
    (found : kindAt root (place ++ name :: below) = some .file) :
    ∃ kind, kindAt root (place ++ [name]) = some kind ∧ ∀ target, kind ≠ .link target := by
  rw [List.append_cons] at found
  obtain ⟨node, there, isFile⟩ := Option.map_eq_some_iff.1 found
  rw [child?_append] at there
  obtain ⟨front, stands, inside⟩ := Option.bind_eq_some_iff.1 there
  refine ⟨front.kind, by rw [kindAt, stands]; rfl, ?_⟩
  intro target isLink
  cases front with
  | link =>
    cases below with
    | nil =>
      cases inside
      cases isFile
    | cons => cases inside
  | file | directory => cases isLink

theorem Leads.enter_last (leads : Leads root links here parts place) {name : String}
    (isName : IsFileName name) {kind : Node.Kind}
    (found : kindAt root (place ++ [name]) = some kind) (noLink : ∀ target, kind ≠ .link target) :
    Leads root links here (parts ++ [name]) (place ++ [name]) := by
  induction leads with
  | arrived =>
    obtain ⟨filled, moves, _⟩ := isName.isName
    exact .enter (kindAt_front found) ⟨filled, moves, isName.notUp⟩ isName.short found noLink .arrived
  | stay inside blank _ ih => exact .stay inside blank (ih found)
  | up inside _ ih => exact .up inside (ih found)
  | enter inside name short there passes _ ih => exact .enter inside name short there passes (ih found)
  | follow inside name short there _ ih =>
    have onward := ih found
    rw [List.append_assoc] at onward
    exact .follow inside name short there onward

end

theorem Leads.foldl_join {root : Node} {links : Nat} {here place below : List String} {path : String}
    (filled : path ≠ "") (leads : Leads root links here (parts path) place)
    (names : ∀ name ∈ below, IsFileName name)
    (found : kindAt root (place ++ below) = some .file) :
    Leads root links here (parts (below.foldl join path)) (place ++ below) := by
  induction below generalizing path place with
  | nil => rwa [List.append_nil]
  | cons name below ih =>
    obtain ⟨first, later⟩ := List.forall_mem_cons.1 names
    obtain ⟨kind, next, noLink⟩ := kindAt_before_file found
    have onward := (leads.enter_last first next noLink).thins (thins_join filled first.isName)
    rw [List.append_cons] at found ⊢
    exact ih (join_ne_empty filled first.isName) onward later found

end DocSearch.FileTree
