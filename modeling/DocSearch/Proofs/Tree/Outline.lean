import DocSearch.Proofs.Except
import DocSearch.Proofs.KeyMap
import DocSearch.Tree.Change

/- Writing over a file changes no other file, directory or link, so all paths lead where they led.
-/
namespace DocSearch

inductive Node.Kind
  | file
  | directory
  | link (target : String)
deriving DecidableEq

namespace Node

def kind : Node → Kind
  | .file _ => .file
  | .directory _ => .directory
  | .link target => .link target

def kindAt (node : Node) (names : List String) : Option Kind := (child? names node).map kind

/-- The same names lead to nodes of the same kind. -/
def SameOutline (a b : Node) : Prop := ∀ names, kindAt a names = kindAt b names

mutual

def Distinct : Node → Prop
  | .file _ | .link _ => True
  | .directory entries => (entries.map Prod.fst).Nodup ∧ DistinctIn entries

def DistinctIn : List (String × Node) → Prop
  | [] => True
  | (_, node) :: rest => Distinct node ∧ DistinctIn rest

end

theorem distinctIn_iff {entries : List (String × Node)} :
    DistinctIn entries ↔ ∀ entry ∈ entries, entry.2.Distinct := by
  induction entries with
  | nil => simp [DistinctIn]
  | cons entry rest ih => rw [DistinctIn, ih, List.forall_mem_cons]

theorem child?_append (front names : List String) (node : Node) :
    child? (front ++ names) node = (child? front node).bind (child? names) := by
  induction front generalizing node with
  | nil => rfl
  | cons name front ih =>
    cases node with
    | directory entries =>
      simp only [List.cons_append, child?]
      cases entries.lookup name with
      | none => rfl
      | some inner => exact ih inner
    | file | link => rfl

theorem child?_directory (name : String) (entries : List (String × Node)) :
    child? [name] (.directory entries) = entries.lookup name := by
  simp only [child?]
  cases entries.lookup name <;> rfl

theorem SameOutline.child? {a b c d : Node} {names : List String} (same : SameOutline a b)
    (first : child? names a = some c) (second : child? names b = some d) : SameOutline c d := by
  intro more
  have whole := same (names ++ more)
  simpa [kindAt, child?_append, first, second] using whole

theorem Distinct.child? {node inner : Node} {names : List String} (distinct : node.Distinct)
    (found : child? names node = some inner) : inner.Distinct := by
  induction names generalizing node with
  | nil =>
    cases found
    exact distinct
  | cons name names ih =>
    cases node with
    | directory entries =>
      obtain ⟨next, named, found⟩ := Option.bind_eq_some_iff.1 found
      exact ih (distinctIn_iff.1 distinct.2 _ (mem_of_lookup named)) found
    | file | link => cases found

theorem child?_put (names : List String) (node new : Node) :
    Node.child? names (put names node new) = some new := by
  induction names generalizing node with
  | nil => rfl
  | cons name names ih =>
    simp only [put, Node.child?, lookup_cons_if, if_true, Option.bind_some]
    exact ih _

theorem sameOutline_put {names : List String} {root : Node} {old : FileData} (new : FileData)
    (found : Node.child? names root = some (.file old)) :
    SameOutline (put names root (.file new)) root := by
  induction names generalizing root with
  | nil =>
    cases found
    intro path
    cases path <;> rfl
  | cons name names ih =>
    cases root with
    | directory entries =>
      obtain ⟨inner, named, found⟩ := Option.bind_eq_some_iff.1 found
      intro path
      cases path with
      | nil => rfl
      | cons first path =>
        have rest := lookup_filter_keys (fun key => decide (key ≠ name)) entries first
        simp only [put, named, Option.getD_some, kindAt, Node.child?, lookup_cons_if]
        by_cases here : first = name
        · rw [if_pos here, here, named]
          exact ih found path
        · rw [if_neg here, rest, if_pos (by simpa using here)]
    | file | link => cases found

theorem distinct_put {names : List String} {root : Node} {old : FileData} (new : FileData)
    (distinct : root.Distinct) (found : Node.child? names root = some (.file old)) :
    (put names root (.file new)).Distinct := by
  induction names generalizing root with
  | nil => trivial
  | cons name names ih =>
    cases root with
    | directory entries =>
      obtain ⟨inner, named, found⟩ := Option.bind_eq_some_iff.1 found
      obtain ⟨once, inside⟩ := distinct
      have inside := distinctIn_iff.1 inside
      simp only [put, named, Option.getD_some]
      have rest : (entries.filter (·.1 ≠ name)).Sublist entries := List.filter_sublist
      refine ⟨List.nodup_cons.2 ⟨?_, once.sublist (rest.map Prod.fst)⟩,
        ih (inside _ (mem_of_lookup named)) found, ?_⟩
      · simp
      · exact distinctIn_iff.2 fun entry member => inside entry (rest.subset member)
    | file | link => cases found

end Node

namespace FileTree
open Node

theorem walkParts_cons (root : Node)
    (follow : List String → List String → Except FileFault (List String))
    (here : List String) (part : String) (rest : List String) :
    walkParts root follow here (part :: rest) =
      if kindAt root here = some .directory then
        if part = "" || part = "." then walkParts root follow here rest
        else if part = ".." then walkParts root follow here.dropLast rest
        else if maxNameSize < part.utf8ByteSize then .error .nameTooLong
        else match kindAt root (here ++ [part]) with
          | none => .error .notFound
          | some (.link target) =>
            follow (if isAbsolute target then [] else here) (parts target ++ rest)
          | some _ => walkParts root follow (here ++ [part]) rest
      else .error .notDirectory := by
  simp only [walkParts, kindAt, child?_append]
  cases root.child? here with
  | none => rfl
  | some node =>
    cases node with
    | directory entries =>
      simp only [Option.bind_some, child?_directory, Option.map_some, kind, if_true]
      cases entries.lookup part with
      | none => rfl
      | some inner => cases inner <;> rfl
    | file | link => rfl

theorem walkParts_congr {a b : Node} (same : SameOutline a b)
    (follow : List String → List String → Except FileFault (List String))
    (here parts : List String) :
    walkParts a follow here parts = walkParts b follow here parts := by
  induction parts generalizing here with
  | nil => rfl
  | cons part rest ih => simp only [walkParts_cons, same here, same (here ++ [part]), ih]

theorem walk_congr {a b : Node} (same : SameOutline a b) (links : Nat) (here parts : List String) :
    walk a links here parts = walk b links here parts := by
  have follow : walk a links = walk b links := by
    induction links with
    | zero =>
      funext here parts
      exact walkParts_congr same _ here parts
    | succ links ih =>
      funext here parts
      rw [walk, walk, ih]
      exact walkParts_congr same _ here parts
  rw [follow]

theorem resolve_congr {a b : FileTree} (same : SameOutline a.root b.root)
    (start : a.working = b.working) (path : String) : a.resolve path = b.resolve path := by
  simp only [resolve, start, walk_congr same]

theorem node_eq_ok {tree : FileTree} {path : String} {node : Node} :
    tree.node path = .ok node ↔
      ∃ names, tree.resolve path = .ok names ∧ tree.root.child? names = some node := by
  unfold FileTree.node
  rw [bind_eq_ok]
  constructor
  · rintro ⟨names, resolved, found⟩
    refine ⟨names, resolved, ?_⟩
    split at found
    · rename_i other same
      cases pure_eq_ok.1 found
      exact same
    · cases found
  · rintro ⟨names, resolved, found⟩
    exact ⟨names, resolved, by rw [found]; rfl⟩

theorem file_eq_ok {tree : FileTree} {path : String} {data : FileData} :
    tree.file path = .ok data ↔ tree.node path = .ok (.file data) := by
  unfold FileTree.file
  rw [bind_eq_ok]
  constructor
  · rintro ⟨node, found, read⟩
    split at read
    · cases pure_eq_ok.1 read
      exact found
    · cases read
  · intro found
    exact ⟨.file data, found, rfl⟩

theorem text_eq_ok {tree : FileTree} {path text : String} :
    tree.text path = .ok text ↔
      ∃ data, tree.node path = .ok (.file data) ∧ String.fromUTF8? data.bytes = some text := by
  unfold FileTree.text
  simp only [bind_eq_ok, file_eq_ok, textOf]
  constructor
  · rintro ⟨data, found, read⟩
    refine ⟨data, found, ?_⟩
    split at read
    · rename_i same
      cases read
      exact same
    · cases read
  · rintro ⟨data, found, read⟩
    exact ⟨data, found, by rw [read]⟩

theorem fromUTF8?_toUTF8 (text : String) : String.fromUTF8? text.toUTF8 = some text :=
  dif_pos text.isValidUTF8

/-- Writing over a file that can be read succeeds: the file holds what was written, every path leads
where it led, and no directory has a name twice if none had. -/
theorem writeFile_over {tree : FileTree} {path old : String} (readable : tree.text path = .ok old)
    (text : String) (now : Int) :
    ∃ written, tree.writeFile path ⟨text.toUTF8, now⟩ = .ok written ∧ written.text path = .ok text ∧
      written.working = tree.working ∧ SameOutline written.root tree.root ∧
      (tree.root.Distinct → written.root.Distinct) := by
  obtain ⟨data, opened, _⟩ := text_eq_ok.1 readable
  obtain ⟨names, resolved, found⟩ := node_eq_ok.1 opened
  have place : tree.writePlace maxLinks path = .ok names := by
    rw [writePlace, resolved]
    dsimp only
    rw [found]
  generalize data : (⟨text.toUTF8, now⟩ : FileData) = new
  have same := sameOutline_put new found
  have leads :=
    resolve_congr (a := { tree with root := put names tree.root (.file new) }) same rfl path
  refine ⟨_, bind_eq_ok.2 ⟨names, place, rfl⟩, ?_, rfl, same,
    fun distinct => distinct_put new distinct found⟩
  refine text_eq_ok.2 ⟨new, node_eq_ok.2 ⟨names, leads.trans resolved, child?_put names _ _⟩, ?_⟩
  rw [← data]
  exact fromUTF8?_toUTF8 text

end FileTree
end DocSearch
