import DocSearch.Proofs.Tree.Outline
import DocSearch.Tree.Locate

/- Which index file a path names depends on what kinds of nodes stand where, and on nothing that the
files hold. -/
namespace DocSearch
namespace Node

def indexFilesAt (entry : String × Node) : List (List String) :=
  match entry.2 with
  | .file _ => if entry.1 = indexFileName then [[entry.1]] else []
  | .link _ => []
  | .directory entries => if isHidden entry.1 then [] else (indexFilesIn entries).map (entry.1 :: ·)

theorem mem_indexFilesIn {entries : List (String × Node)} {place : List String} :
    place ∈ indexFilesIn entries ↔ ∃ entry ∈ entries, place ∈ indexFilesAt entry := by
  induction entries with
  | nil => simp [indexFilesIn]
  | cons entry rest ih =>
    obtain ⟨name, node⟩ := entry
    cases node <;> simp [indexFilesIn, indexFiles, indexFilesAt, ih]

theorem head_of_mem_indexFilesAt {entry : String × Node} {place : List String}
    (member : place ∈ indexFilesAt entry) : ∃ rest, place = entry.1 :: rest := by
  unfold indexFilesAt at member
  split at member
  · split at member
    · exact ⟨[], List.mem_singleton.1 member⟩
    · cases member
  · cases member
  · split at member
    · cases member
    · obtain ⟨rest, _, rfl⟩ := List.mem_map.1 member
      exact ⟨rest, rfl⟩

theorem cons_mem_indexFiles {entries : List (String × Node)} (once : (entries.map Prod.fst).Nodup)
    {name : String} {place : List String} :
    name :: place ∈ indexFiles (.directory entries) ↔
      ∃ inner, entries.lookup name = some inner ∧ name :: place ∈ indexFilesAt (name, inner) := by
  rw [indexFiles, mem_indexFilesIn]
  constructor
  · rintro ⟨entry, member, here⟩
    obtain ⟨rest, same⟩ := head_of_mem_indexFilesAt here
    cases same
    exact ⟨entry.2, lookup_of_mem once member, here⟩
  · rintro ⟨inner, named, here⟩
    exact ⟨(name, inner), mem_of_lookup named, here⟩

theorem mem_indexFiles {node : Node} (distinct : node.Distinct) (place : List String) :
    place ∈ node.indexFiles ↔ kindAt node place = some .file ∧
      place.getLast? = some indexFileName ∧ ∀ name ∈ place.dropLast, isHidden name = false := by
  induction place generalizing node with
  | nil =>
    simp only [List.getLast?_nil, reduceCtorEq, false_and, and_false, iff_false]
    intro member
    cases node with
    | directory entries =>
      obtain ⟨entry, _, here⟩ := mem_indexFilesIn.1 member
      obtain ⟨rest, same⟩ := head_of_mem_indexFilesAt here
      cases same
    | file | link => cases member
  | cons name place ih =>
    cases node with
    | directory entries =>
      rw [cons_mem_indexFiles distinct.1]
      simp only [kindAt, child?]
      cases named : entries.lookup name with
      | none => simp
      | some inner =>
        have distinctInner := distinctIn_iff.1 distinct.2 _ (mem_of_lookup named)
        simp only [Option.some.injEq, exists_eq_left', Option.bind_some]
        cases inner with
        | file data =>
          cases place with
          | nil => simp [indexFilesAt, child?, kind]
          | cons => simp [indexFilesAt, child?]
        | link target =>
          cases place with
          | nil => simp [indexFilesAt, child?, kind]
          | cons => simp [indexFilesAt, child?]
        | directory inside =>
          have rest := ih distinctInner
          cases place with
          | nil =>
            simp only [List.getLast?_nil, reduceCtorEq, false_and, and_false, iff_false,
              indexFiles] at rest
            simp [indexFilesAt, child?, kind, rest]
          | cons next place =>
            simp only [indexFiles, kindAt] at rest
            by_cases hidden : isHidden name = true
            · simp [indexFilesAt, hidden]
            · simp [indexFilesAt, hidden, rest]
    | file | link => simp [indexFiles, kindAt, child?]

end Node

theorem shallowerBefore_iff {a b : List String} :
    shallowerBefore a b = true ↔ a.length < b.length ∨ a.length = b.length ∧ ¬ b < a := by
  simp [shallowerBefore]

theorem shallowerBefore_refl (a : List String) : shallowerBefore a a = true :=
  shallowerBefore_iff.2 (Or.inr ⟨rfl, List.le_refl a⟩)

theorem shallowerBefore_trans {a b c : List String} (first : shallowerBefore a b = true)
    (second : shallowerBefore b c = true) : shallowerBefore a c = true := by
  rw [shallowerBefore_iff] at *
  rcases first with shorter | ⟨same, before⟩
  · left
    omega
  · rcases second with shorter | ⟨sameNext, beforeNext⟩
    · left
      omega
    · exact Or.inr ⟨same.trans sameNext, List.le_trans before beforeNext⟩

theorem shallowerBefore_total {a b : List String} (not : ¬ shallowerBefore a b = true) :
    shallowerBefore b a = true := by
  rw [shallowerBefore_iff] at *
  rcases Nat.lt_trichotomy a.length b.length with shorter | same | longer
  · exact absurd (Or.inl shorter) not
  · rcases List.le_total a b with before | after
    · exact absurd (Or.inr ⟨same, before⟩) not
    · exact Or.inr ⟨same.symm, after⟩
  · exact Or.inl longer

theorem shallowerBefore_antisymm {a b : List String} (first : shallowerBefore a b = true)
    (second : shallowerBefore b a = true) : a = b := by
  rw [shallowerBefore_iff] at *
  rcases first with shorter | ⟨_, before⟩
  · omega
  · rcases second with shorter | ⟨_, after⟩
    · omega
    · exact List.le_antisymm before after

def shallower (best : Option (List String)) (place : List String) : Option (List String) :=
  match best with
  | none => some place
  | some best => some (if shallowerBefore best place then best else place)

theorem foldl_shallower (places : List (List String)) (best : List String) :
    ∃ found, places.foldl shallower (some best) = some found ∧ found ∈ best :: places ∧
      ∀ place ∈ best :: places, shallowerBefore found place = true := by
  induction places generalizing best with
  | nil => exact ⟨best, rfl, by simp, by simpa using shallowerBefore_refl best⟩
  | cons place places ih =>
    obtain ⟨found, same, member, first⟩ := ih (if shallowerBefore best place then best else place)
    obtain ⟨here, later⟩ := List.forall_mem_cons.1 first
    refine ⟨found, same, ?_, ?_⟩
    · split at member
      · exact List.mem_cons.2 ((List.mem_cons.1 member).imp_right (List.mem_cons_of_mem _))
      · exact List.mem_cons_of_mem _ member
    · rw [List.forall_mem_cons, List.forall_mem_cons]
      split at here
      · rename_i before
        exact ⟨here, shallowerBefore_trans here before, later⟩
      · rename_i notBefore
        exact ⟨shallowerBefore_trans here (shallowerBefore_total notBefore), here, later⟩

theorem shallowest?_cons (place : List String) (places : List (List String)) :
    ∃ found, shallowest? (place :: places) = some found ∧ found ∈ place :: places ∧
      ∀ other ∈ place :: places, shallowerBefore found other = true :=
  foldl_shallower places place

theorem shallowest?_congr {a b : List (List String)} (same : ∀ place, place ∈ a ↔ place ∈ b) :
    shallowest? a = shallowest? b := by
  cases a with
  | nil =>
    cases b with
    | nil => rfl
    | cons place b => exact absurd ((same place).2 (by simp)) (by simp)
  | cons place a =>
    cases b with
    | nil => exact absurd ((same place).1 (by simp)) (by simp)
    | cons other b =>
      obtain ⟨found, first, member, least⟩ := shallowest?_cons place a
      obtain ⟨otherFound, second, otherMember, otherLeast⟩ := shallowest?_cons other b
      rw [first, second]
      have before := least otherFound ((same _).2 otherMember)
      have after := otherLeast found ((same _).1 member)
      rw [shallowerBefore_antisymm before after]

namespace FileTree
open Node

theorem exists_node {a b : FileTree} (same : SameOutline a.root b.root)
    (start : a.working = b.working) {path : String} {node : Node} (found : b.node path = .ok node) :
    ∃ other, a.node path = .ok other ∧ SameOutline other node := by
  obtain ⟨names, resolved, here⟩ := node_eq_ok.1 found
  have kinds := same names
  rw [kindAt, kindAt, here] at kinds
  obtain ⟨other, there, _⟩ := Option.map_eq_some_iff.1 kinds
  exact ⟨other, node_eq_ok.2 ⟨names, (resolve_congr same start path).trans resolved, there⟩,
    same.child? there here⟩

theorem distinct_node {tree : FileTree} (distinct : tree.root.Distinct) {path : String}
    {node : Node} (found : tree.node path = .ok node) : node.Distinct := by
  obtain ⟨names, _, here⟩ := node_eq_ok.1 found
  exact distinct.child? here

theorem locate?_eq_some {tree : FileTree} {path file : String} :
    tree.locate? path = some file ↔ ∃ node, tree.node path = .ok node ∧
      if node.kind = .file then path = file
      else (shallowest? node.indexFiles).map (·.foldl join path) = some file := by
  unfold locate?
  cases tree.node path with
  | error fault => simp
  | ok node => cases node <;> simp [kind]

/-- A path names the same index file in trees of the same outline. -/
theorem locate?_congr {a b : FileTree} (same : SameOutline a.root b.root)
    (start : a.working = b.working)
    (distinctA : a.root.Distinct) (distinctB : b.root.Distinct) {path file : String}
    (located : b.locate? path = some file) : a.locate? path = some file := by
  obtain ⟨node, found, chosen⟩ := locate?_eq_some.1 located
  obtain ⟨other, there, outline⟩ := exists_node same start found
  have kinds : other.kind = node.kind := Option.some.inj (outline [])
  have places : shallowest? other.indexFiles = shallowest? node.indexFiles := by
    refine shallowest?_congr fun place => ?_
    rw [mem_indexFiles (distinct_node distinctA there),
      mem_indexFiles (distinct_node distinctB found), outline place]
  exact locate?_eq_some.2 ⟨other, there, by rw [kinds, places]; exact chosen⟩

end FileTree
end DocSearch
