import DocSearch.Proofs.Except
import DocSearch.Proofs.Index.RoundTrip
import DocSearch.Proofs.Tree.Located
import DocSearch.Store.Loaded

/- A loaded index that passes as fresh is what reading its file again would give, if files do not
change behind their size and time. -/
namespace DocSearch

theorem SearchIndex.ofFile_eq_ok {path : String} {data : FileData}
    {result : SearchIndex × Dialect} : SearchIndex.ofFile path data = .ok result ↔
      ∃ text, String.fromUTF8? data.bytes = some text ∧ SearchIndex.parse text = .ok result := by
  unfold SearchIndex.ofFile FileTree.textOf
  cases String.fromUTF8? data.bytes with
  | none => simp
  | some text =>
    cases parsed : SearchIndex.parse text with
    | error e => simp [parsed]
    | ok found => simp [parsed]

namespace Loaded

def content (loaded : Loaded) : Dialect × SearchIndex × Report :=
  (loaded.dialect, loaded.index, loaded.report)

/-- A loaded index with all that it says of itself: it is what its file held. -/
structure Genuine (loaded : Loaded) : Prop where
  parsed : SearchIndex.ofFile loaded.path loaded.file = .ok (loaded.index, loaded.dialect)
  report : loaded.report = loaded.index.validate

/-- What stands at the path with the size and the time of the file as it was loaded is that file. -/
def Trusted (loaded : Loaded) (tree : FileTree) : Prop :=
  ∀ now, tree.file loaded.path = .ok now → now.bytes.size = loaded.file.bytes.size →
    now.modified = loaded.file.modified → now.bytes = loaded.file.bytes

variable {serial : Nat} {tree : FileTree} {path : String} {loaded : Loaded}

theorem read_eq_ok : read serial tree path = .ok loaded ↔ loaded.Genuine ∧
    loaded.serial = serial ∧ loaded.path = path ∧ tree.file path = .ok loaded.file := by
  unfold read
  cases tree.file path with
  | error fault => simp
  | ok file =>
    dsimp only
    constructor
    · intro done
      split at done
      · cases done
      · rename_i index dialect parsed
        cases done
        exact ⟨⟨parsed, rfl⟩, rfl, rfl, rfl⟩
    · rintro ⟨⟨parsed, report⟩, rfl, rfl, found⟩
      cases found
      rw [parsed]
      dsimp only
      rw [← report]

theorem read_of_file {data : FileData} {index : SearchIndex} {dialect : Dialect}
    (found : tree.file path = .ok data) (parsed : SearchIndex.ofFile path data = .ok (index, dialect))
    (serial : Nat) : read serial tree path =
      .ok ⟨serial, path, dialect, index, index.validate, data⟩ := by
  rw [read, found]
  dsimp only
  rw [parsed]

theorem read_renumbered (m n : Nat) (tree : FileTree) (path : String) :
    read m tree path = (read n tree path).map fun loaded => { loaded with serial := m } := by
  unfold read
  cases tree.file path with
  | error fault => rfl
  | ok file =>
    dsimp only
    cases SearchIndex.ofFile path file <;> rfl

section
variable {now : FileTree}

theorem read_congr (same : now.file path = tree.file path) (serial : Nat) :
    read serial now path = read serial tree path := by
  rw [read, read, same]

theorem isFresh_congr (same : now.file loaded.path = tree.file loaded.path) :
    loaded.isFresh now = loaded.isFresh tree := by
  rw [isFresh, isFresh, same]

end

theorem trusted_of_read (done : read serial tree path = .ok loaded) : loaded.Trusted tree := by
  obtain ⟨_, _, rfl, found⟩ := read_eq_ok.1 done
  intro now foundNow _ _
  rw [found] at foundNow
  cases foundNow
  rfl

theorem sameFile_iff {before now : FileData} : sameFile before now = true ↔
    now.bytes.size = before.bytes.size ∧ now.modified = before.modified ∨
      now.bytes = before.bytes := by
  rw [sameFile, Bool.or_eq_true, Bool.and_eq_true, beq_iff_eq, beq_iff_eq, decide_eq_true_eq,
    ByteArray.ext_iff]

theorem isFresh_of_read (done : read serial tree path = .ok loaded) : loaded.isFresh tree = true := by
  obtain ⟨_, _, rfl, found⟩ := read_eq_ok.1 done
  rw [isFresh, found]
  exact sameFile_iff.2 (Or.inr rfl)

theorem exists_file_of_fresh (trusted : loaded.Trusted tree) (fresh : loaded.isFresh tree = true) :
    ∃ now, tree.file loaded.path = .ok now ∧ now.bytes = loaded.file.bytes := by
  unfold isFresh at fresh
  split at fresh
  · cases fresh
  · rename_i now found
    rcases sameFile_iff.1 fresh with ⟨size, time⟩ | same
    · exact ⟨now, found, trusted now found size time⟩
    · exact ⟨now, found, same⟩

theorem Genuine.read {now : FileData} (genuine : loaded.Genuine)
    (same : now.bytes = loaded.file.bytes) (found : tree.file path = .ok now) (serial : Nat) :
    ∃ again, Loaded.read serial tree path = .ok again ∧ again.path = path ∧
      again.content = loaded.content := by
  obtain ⟨text, bytes, parsed⟩ := SearchIndex.ofFile_eq_ok.1 genuine.parsed
  have again : SearchIndex.ofFile path now = .ok (loaded.index, loaded.dialect) :=
    SearchIndex.ofFile_eq_ok.2 ⟨text, same ▸ bytes, parsed⟩
  refine ⟨_, read_of_file found again serial, rfl, ?_⟩
  rw [content, content, genuine.report]

end Loaded

namespace FileTree

def alone (data : FileData) : FileTree := ⟨.directory [("x.js", .file data)], []⟩

theorem resolve_alone (data : FileData) : (alone data).resolve "/x.js" = .ok ["x.js"] := by
  have noNul : "/x.js".contains '\x00' = false := by simp
  rw [resolve, if_neg (by simp [noNul])]
  rfl

theorem file_alone (data : FileData) : (alone data).file "/x.js" = .ok data :=
  file_eq_ok.2 (node_eq_ok.2 ⟨["x.js"], resolve_alone data, rfl⟩)

theorem eq_of_file_alone {path : String} {data found : FileData}
    (here : (alone data).file path = .ok found) : found = data := by
  obtain ⟨names, _, there⟩ := node_eq_ok.1 (file_eq_ok.1 here)
  cases names with
  | nil => cases there
  | cons first rest =>
    obtain ⟨node, inside, there⟩ := Option.bind_eq_some_iff.1 there
    have only := mem_of_lookup inside
    rw [List.mem_singleton] at only
    cases only
    cases rest <;> cases there
    rfl

end FileTree

def indexFile : FileData :=
  let v := .object [("docnames", .array []), ("terms", .object []), ("titles", .array [])]
  ⟨(Literal.writeCall .json v).toUTF8, 0⟩

def onlyIndex : FileTree := .alone indexFile

theorem exists_read_onlyIndex (serial : Nat) :
    ∃ loaded, Loaded.read serial onlyIndex "/x.js" = .ok loaded := by
  let v : Value := .object [("docnames", .array []), ("terms", .object []), ("titles", .array [])]
  have ordered : v.Ordered := ⟨by decide, trivial, ⟨List.Pairwise.nil, trivial⟩, trivial, trivial⟩
  have taken := (Literal.takeText_writeCall .json ordered).2 ⟨by decide, rfl⟩
  have parsed := SearchIndex.parse_eq_ok.2 ⟨v, Literal.parse_eq_ok.2 ⟨_, taken, rfl⟩, rfl⟩
  have decoded : SearchIndex.ofFile "/x.js" indexFile = .ok (_, _) :=
    SearchIndex.ofFile_eq_ok.2 ⟨_, FileTree.fromUTF8?_toUTF8 _, parsed⟩
  exact ⟨_, Loaded.read_of_file (FileTree.file_alone indexFile) decoded serial⟩

end DocSearch
