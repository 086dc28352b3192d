import DocSearch.Proofs.Tree.Joined
import DocSearch.Proofs.Tree.Located

/- The index file of a directory: which files below it count, and which of them is the first. Neither
depends on the order in which directories list what is in them. -/
namespace DocSearch
namespace Node

inductive Named : Node → Prop
  | file (data : FileData) : Named (.file data)
  | link (target : String) : Named (.link target)
  | directory {entries : List (String × Node)}
    (names : ∀ entry ∈ entries, FileTree.IsFileName entry.1)
    (inside : ∀ entry ∈ entries, Named entry.2) : Named (.directory entries)

/-- The same nodes, but some directories list their entries in another order. -/
inductive Reordered : Node → Node → Prop
  | same (node : Node) : Reordered node node
  | listed {entries others : List (String × Node)} (order : entries.Perm others) :
    Reordered (.directory entries) (.directory others)
  | inside {before after : List (String × Node)} {name : String} {a b : Node}
    (inner : Reordered a b) :
    Reordered (.directory (before ++ (name, a) :: after)) (.directory (before ++ (name, b) :: after))
  | trans {a b c : Node} (first : Reordered a b) (second : Reordered b c) : Reordered a c

theorem Named.names_of_child? {node inner : Node} {place : List String} (named : node.Named)
    (found : child? place node = some inner) : ∀ name ∈ place, FileTree.IsFileName name := by
  induction place generalizing node with
  | nil => simp
  | cons name place ih =>
    cases named with
    | directory names inside =>
      obtain ⟨next, here, found⟩ := Option.bind_eq_some_iff.1 found
      have member := mem_of_lookup here
      exact List.forall_mem_cons.2 ⟨names _ member, ih (inside _ member) found⟩
    | file | link => cases found

theorem Reordered.sameOutline {a b : Node} (reordered : Reordered a b) (distinct : a.Distinct) :
    SameOutline a b ∧ b.Distinct := by
  induction reordered with
  | same => exact ⟨fun _ => rfl, distinct⟩
  | @listed entries others order =>
    obtain ⟨once, inside⟩ := distinct
    have inside := distinctIn_iff.1 inside
    refine ⟨fun path => ?_, (order.map Prod.fst).nodup_iff.1 once,
      distinctIn_iff.2 fun entry member => inside entry (order.symm.subset member)⟩
    cases path with
    | nil => rfl
    | cons name path => rw [kindAt, kindAt, child?, child?, lookup_of_perm order once]
  | @inside before after name a b _ ih =>
    obtain ⟨once, inside⟩ := distinct
    have inside := distinctIn_iff.1 inside
    obtain ⟨outline, distinctInner⟩ := ih (inside (name, a) (by simp))
    refine ⟨fun path => ?_, by simpa using once, distinctIn_iff.2 fun entry member => ?_⟩
    · cases path with
      | nil => rfl
      | cons first path =>
        simp only [kindAt, child?, List.lookup_append, lookup_cons_if]
        cases before.lookup first with
        | some => rfl
        | none =>
          by_cases here : first = name
          · rw [if_pos here, if_pos here]
            exact outline path
          · rw [if_neg here, if_neg here]
    · rcases List.mem_append.1 member with early | late
      · exact inside entry (List.mem_append_left _ early)
      · rcases List.mem_cons.1 late with rfl | later
        · exact distinctInner
        · exact inside entry (List.mem_append_right _ (List.mem_cons_of_mem _ later))
  | trans _ _ ihFirst ihSecond =>
    obtain ⟨outline, distinctNext⟩ := ihFirst distinct
    obtain ⟨outlineNext, distinctLast⟩ := ihSecond distinctNext
    exact ⟨fun path => (outline path).trans (outlineNext path), distinctLast⟩

end Node

namespace FileTree
open Node

theorem comesBefore_of_shallowerBefore {path : String} (filled : path ≠ "") {a b : List String}
    (namesA : ∀ name ∈ a, IsFileName name) (namesB : ∀ name ∈ b, IsFileName name)
    (before : shallowerBefore a b = true) (differs : a ≠ b) :
    ComesBefore (a.foldl join path) (b.foldl join path) := by
  rw [ComesBefore, components_foldl_join namesA filled, components_foldl_join namesB filled]
  simp only [List.length_append, List.length_map]
  rcases shallowerBefore_iff.1 before with shorter | ⟨same, notAfter⟩
  · left
    omega
  · have below : a < b := (List.le_iff_lt_or_eq.1 notAfter).resolve_right differs
    exact Or.inr ⟨by omega, .append_left _ (lex_names below) _⟩

/-- The path of an index file below the directory that `path` leads to: a file of that name, not a
link to one, that is reached through directories that are not hidden, and through no link. -/
def IndexPath (tree : FileTree) (path file : String) : Prop :=
  ∃ node below, tree.node path = .ok node ∧
    kindAt node (below ++ [indexFileName]) = some .file ∧
      (∀ name ∈ below, isHidden name = false) ∧ file = (below ++ [indexFileName]).foldl join path

section
variable {tree : FileTree} (named : tree.root.Named) (distinct : tree.root.Distinct) {path : String}

section
include distinct

theorem indexPath_iff {file : String} : tree.IndexPath path file ↔
    ∃ node, tree.node path = .ok node ∧ ∃ place ∈ node.indexFiles, file = place.foldl join path := by
  constructor
  · rintro ⟨node, below, found, isFile, visible, same⟩
    refine ⟨node, found, _, (mem_indexFiles (distinct_node distinct found) _).2 ?_, same⟩
    exact ⟨isFile, List.getLast?_concat, by rwa [List.dropLast_concat]⟩
  · rintro ⟨node, found, place, member, same⟩
    obtain ⟨isFile, last, visible⟩ := (mem_indexFiles (distinct_node distinct found) _).1 member
    obtain ⟨below, rfl⟩ := List.getLast?_eq_some_iff.1 last
    rw [List.dropLast_concat] at visible
    exact ⟨node, below, found, isFile, visible, same⟩

end

theorem path_ne_empty {node : Node} (found : tree.node path = .ok node) : path ≠ "" := by
  obtain ⟨_, resolved, _⟩ := node_eq_ok.1 found
  exact (resolve_eq_ok.1 resolved).2.1

theorem locate?_of_file {data : FileData} (opened : tree.file path = .ok data) :
    tree.locate? path = some path := by
  rw [locate?, file_eq_ok.1 opened]

theorem exists_file_below {node : Node} (found : tree.node path = .ok node) {place : List String}
    (isFile : kindAt node place = some .file) : ∃ front data, tree.resolve path = .ok front ∧
      tree.root.child? (front ++ place) = some (.file data) := by
  obtain ⟨front, resolved, here⟩ := node_eq_ok.1 found
  obtain ⟨inner, there, kind⟩ := Option.map_eq_some_iff.1 isFile
  cases inner with
  | file data =>
    refine ⟨front, data, resolved, ?_⟩
    rw [child?_append, here]
    exact there
  | directory | link => cases kind

include named distinct

/-- Of the index files below a directory the first one is found. -/
theorem located_or_none {node : Node} (found : tree.node path = .ok node)
    (noFile : node.kind ≠ .file) :
    (tree.locate? path = none ∧ ∀ file, ¬ tree.IndexPath path file) ∨
      ∃ file, tree.locate? path = some file ∧ tree.IndexPath path file ∧
        ∀ other, tree.IndexPath path other → other ≠ file → ComesBefore file other := by
  have located : tree.locate? path = (shallowest? node.indexFiles).map (·.foldl join path) := by
    rw [locate?, found]
    cases node with
    | file => exact absurd rfl noFile
    | directory | link => rfl
  have indexPaths {file : String} : tree.IndexPath path file ↔
      ∃ place ∈ node.indexFiles, file = place.foldl join path := by
    rw [indexPath_iff distinct, found]
    simp
  have names (place : List String) (member : place ∈ node.indexFiles) :
      ∀ name ∈ place, IsFileName name := by
    obtain ⟨isFile, _⟩ := (mem_indexFiles (distinct_node distinct found) _).1 member
    obtain ⟨front, data, _, there⟩ := exists_file_below found isFile
    exact fun name inside => named.names_of_child? there name (List.mem_append_right _ inside)
  cases places : node.indexFiles with
  | nil =>
    left
    refine ⟨by rw [located, places]; rfl, fun file isIndex => ?_⟩
    obtain ⟨place, member, _⟩ := indexPaths.1 isIndex
    rw [places] at member
    cases member
  | cons place rest =>
    right
    obtain ⟨first, chosen, member, least⟩ := shallowest?_cons place rest
    rw [← places] at chosen member least
    have isIndex := indexPaths.2 ⟨first, member, rfl⟩
    refine ⟨first.foldl join path, by rw [located, chosen]; rfl, isIndex, ?_⟩
    intro other isIndexToo differs
    obtain ⟨otherPlace, otherMember, rfl⟩ := indexPaths.1 isIndexToo
    have differs : first ≠ otherPlace := by
      rintro rfl
      exact differs rfl
    exact comesBefore_of_shallowerBefore (path_ne_empty found) (names _ member)
      (names _ otherMember) (least _ otherMember) differs

theorem located_iff {entries : List (String × Node)}
    (found : tree.node path = .ok (.directory entries)) {file : String} :
    tree.locate? path = some file ↔ tree.IndexPath path file ∧
      ∀ other, tree.IndexPath path other → other ≠ file → ComesBefore file other := by
  rcases located_or_none named distinct found (by simp [kind]) with
    ⟨nothing, none⟩ | ⟨first, located, isIndex, least⟩
  · rw [nothing]
    constructor
    · simp
    · rintro ⟨isIndex, _⟩
      exact absurd isIndex (none file)
  · rw [located]
    constructor
    · rintro ⟨⟩
      exact ⟨isIndex, least⟩
    · rintro ⟨isIndexToo, leastToo⟩
      by_contra differs
      have differs : first ≠ file := fun same => differs (congrArg some same)
      exact (least file isIndexToo differs.symm).asymm (leastToo first isIndex differs)

theorem not_located_iff : tree.locate? path = none ↔
    (∀ data, tree.file path ≠ .ok data) ∧ ∀ file, ¬ tree.IndexPath path file := by
  cases found : tree.node path with
  | error fault =>
    have nothing : tree.locate? path = none := by rw [locate?, found]
    refine iff_of_true nothing ⟨fun data opened => ?_, ?_⟩
    · rw [file_eq_ok, found] at opened
      cases opened
    · rintro file ⟨node, below, leads, _⟩
      rw [found] at leads
      cases leads
  | ok node =>
    by_cases isFile : node.kind = .file
    · cases node with
      | file data =>
        have given := locate?_of_file (file_eq_ok.2 found)
        refine iff_of_false (by simp [given]) fun none => none.1 data (file_eq_ok.2 found)
      | directory | link => cases isFile
    · have noFile (data : FileData) : tree.file path ≠ .ok data := by
        intro opened
        rw [file_eq_ok, found] at opened
        cases opened
        exact isFile rfl
      rcases located_or_none named distinct found isFile with
        ⟨nothing, none⟩ | ⟨first, located, isIndex, _⟩
      · exact iff_of_true nothing ⟨noFile, none⟩
      · exact iff_of_false (by simp [located]) fun none => none.2 first isIndex

omit distinct in
theorem file_of_indexPath {file : String} (isIndex : tree.IndexPath path file)
    (short : file.utf8ByteSize ≤ maxPathSize) : ∃ data, tree.file file = .ok data := by
  obtain ⟨node, below, found, isFile, _, rfl⟩ := isIndex
  obtain ⟨front, data, resolved, there⟩ := exists_file_below found isFile
  obtain ⟨noNul, filled, _, leads⟩ := resolve_eq_ok.1 resolved
  have names (name : String) (member : name ∈ below ++ [indexFileName]) : IsFileName name :=
    named.names_of_child? there name (List.mem_append_right _ member)
  obtain ⟨some, clean, absolute⟩ := foldl_join_usable names filled noNul
  refine ⟨data, file_eq_ok.2 (node_eq_ok.2 ⟨_, ?_, there⟩)⟩
  refine resolve_eq_ok.2 ⟨clean, some, short, ?_⟩
  rw [absolute]
  exact leads.foldl_join filled names (by rw [kindAt, there]; rfl)

omit named in
theorem locate?_reordered {other : FileTree} (reordered : Reordered tree.root other.root)
    (start : other.working = tree.working) : other.locate? path = tree.locate? path := by
  obtain ⟨outline, distinctToo⟩ := reordered.sameOutline distinct
  apply Option.ext
  intro file
  constructor
  · exact locate?_congr outline start.symm distinct distinctToo
  · exact locate?_congr (fun names => (outline names).symm) start distinctToo distinct

/-- What is found for a path depends on the tree alone. A file is found as it is named. For a
directory it is the first of the index files below it in the order of paths, and that path leads to a
file. Nothing is found when there is neither. -/
theorem locates_first_index_file (path : String) :
    (∀ data, tree.file path = .ok data → tree.locate? path = some path) ∧
    (∀ entries, tree.node path = .ok (.directory entries) → ∀ file,
      tree.locate? path = some file ↔ tree.IndexPath path file ∧
        ∀ other, tree.IndexPath path other → other ≠ file → ComesBefore file other) ∧
    (tree.locate? path = none ↔
      (∀ data, tree.file path ≠ .ok data) ∧ ∀ file, ¬ tree.IndexPath path file) ∧
    (∀ file, tree.IndexPath path file → file.utf8ByteSize ≤ maxPathSize →
      ∃ data, tree.file file = .ok data) ∧
    ∀ other : FileTree, Reordered tree.root other.root → other.working = tree.working →
      other.locate? path = tree.locate? path := by
  refine ⟨?_, ?_, ?_, ?_, ?_⟩
  · exact fun _ => locate?_of_file
  · exact fun _ found _ => located_iff named distinct found
  · exact not_located_iff named distinct
  · exact fun _ => file_of_indexPath named
  · exact fun _ => locate?_reordered distinct

end

def emptySite : Node := .directory [(indexFileName, .file ⟨.empty, 0⟩)]

def sites : Node := .directory
  [("old", .directory [("a", emptySite)]), ("a-b", emptySite), (indexFileName, .link "a/searchindex.js"),
    ("a", emptySite), (".git", emptySite)]

def docsTree : FileTree := ⟨.directory [("docs", sites)], []⟩

theorem locates_first_index_file_docs : docsTree.root.Named ∧ docsTree.root.Distinct ∧
    docsTree.locate? "docs/" = some "docs/a/searchindex.js" ∧
    docsTree.IndexPath "docs/" "docs/a/searchindex.js" ∧
    (∀ other, docsTree.IndexPath "docs/" other → other ≠ "docs/a/searchindex.js" →
      ComesBefore "docs/a/searchindex.js" other) ∧
    "docs/a-b/searchindex.js" < "docs/a/searchindex.js" := by
  have site : emptySite.Named := .directory (by decide) (by simpa using .file _)
  have old : Named (.directory [("a", emptySite)]) := .directory (by decide) (by simpa using site)
  have inside : sites.Named := .directory (by decide) (by simpa [site, old] using .link _)
  have named : docsTree.root.Named := .directory (by decide) (by simpa using inside)
  have distinct : docsTree.root.Distinct := by
    simp [docsTree, sites, emptySite, Distinct, DistinctIn, indexFileName]
  have resolved : docsTree.resolve "docs/" = .ok ["docs"] := by
    have clean : "docs/".contains '\x00' = false := by simp
    rw [resolve, if_neg (by simp [clean])]
    rfl
  have found := node_eq_ok.2 ⟨["docs"], resolved, rfl⟩
  have located : docsTree.locate? "docs/" = some "docs/a/searchindex.js" :=
    locate?_eq_some.2 ⟨_, found, by decide +kernel⟩
  obtain ⟨_, first, _⟩ := locates_first_index_file named distinct "docs/"
  obtain ⟨isIndex, least⟩ := (first _ found _).1 located
  exact ⟨named, distinct, located, isIndex, least, by decide⟩

end FileTree
end DocSearch
