import DocSearch.Command.Run
import DocSearch.Proofs.Index.RoundTrip
import DocSearch.Proofs.Tree.Located

/- Formatting an index file: what it makes of a text, and that a text it has made stays. -/
namespace DocSearch.Command

section
variable {host : Host} {path file source : String} (located : host.files.locate? path = some file)
  (read : host.files.text file = .ok source)

include located read

theorem format_of_unparsable {e : ReadError} (parsed : SearchIndex.parse source = .error e)
    (checkOnly : Bool) (dialect : Option Dialect) :
    format host path checkOnly dialect = .error (.unparsable file e) := by
  simp only [format, locate, located, read, parsed, Except.mapError, bind, Except.bind]

theorem format_of_parsed {index : SearchIndex} {detected : Dialect}
    (parsed : SearchIndex.parse source = .ok (index, detected)) (checkOnly : Bool)
    (dialect : Option Dialect) :
    format host path checkOnly dialect =
      if index.toText (dialect.getD detected) = source then .ok (.done 0 "" "", host)
      else if checkOnly then
        .ok (.done differsCode
          s!"{file} would be rewritten ({(dialect.getD detected).name} dialect)\n" "",
          host)
      else
        ((host.files.writeFile file
          ⟨(index.toText (dialect.getD detected)).toUTF8, host.now⟩).mapError
          (.unwritable file)).map fun files =>
            (.done 0 s!"Rewrote {file} ({(dialect.getD detected).name} dialect)\n" "",
              { host with files }) := by
  simp only [format, locate, located, read, parsed, Except.mapError, bind, Except.bind]
  split
  · rfl
  · split
    · rfl
    · generalize (⟨(index.toText (dialect.getD detected)).toUTF8, host.now⟩ : FileData) = new
      cases host.files.writeFile file new <;> rfl

end

/-- One formatting after another: how each ends and how they leave the machine. -/
def formatEach (path : String) :
    Host → List (Bool × Option Dialect) → Except Failure (List Outcome × Host)
  | host, [] => .ok ([], host)
  | host, (checkOnly, dialect) :: runs => do
    let (outcome, host) ← format host path checkOnly dialect
    let (outcomes, host) ← formatEach path host runs
    return (outcome :: outcomes, host)

theorem formatEach_stays {path : String} {host : Host} {runs : List (Bool × Option Dialect)}
    (stays : ∀ run ∈ runs, format host path run.1 run.2 = .ok (.done 0 "" "", host)) :
    formatEach path host runs = .ok (runs.map fun _ => .done 0 "" "", host) := by
  induction runs with
  | nil => rfl
  | cons run runs ih =>
    obtain ⟨checkOnly, dialect⟩ := run
    obtain ⟨first, later⟩ := List.forall_mem_cons.1 stays
    simp only [formatEach, first, ih later, bind, Except.bind, pure, Except.pure, List.map_cons]

/-- A machine on which the path names a file with the canonical text of an index. -/
structure Settled (host : Host) (path file : String) (index : SearchIndex) (dialect : Dialect) :
    Prop where
  located : host.files.locate? path = some file
  read : host.files.text file = .ok (index.toText dialect)
  parsed : SearchIndex.parse (index.toText dialect) = .ok (index, dialect)

theorem Settled.format {host : Host} {path file : String} {index : SearchIndex} {dialect : Dialect}
    (settled : Settled host path file index dialect) (checkOnly : Bool) {again : Option Dialect}
    (same : again = none ∨ again = some dialect) :
    format host path checkOnly again = .ok (.done 0 "" "", host) := by
  have chosen : again.getD dialect = dialect := by rcases same with rfl | rfl <;> rfl
  rw [format_of_parsed settled.located settled.read settled.parsed, chosen, if_pos rfl]

theorem exists_settled {host : Host} {path file source : String}
    (distinct : host.files.root.Distinct)
    (located : host.files.locate? path = some file) (read : host.files.text file = .ok source)
    {index : SearchIndex} {detected : Dialect}
    (parsed : SearchIndex.parse source = .ok (index, detected)) (dialect : Option Dialect) :
    ∃ output after, format host path false dialect = .ok (.done 0 output "", after) ∧
      Settled after path file index (dialect.getD detected) := by
  have again := SearchIndex.parse_toText parsed (dialect.getD detected)
  rw [format_of_parsed located read parsed]
  split
  · rename_i same
    exact ⟨"", host, rfl, located, by rw [same]; exact read, again⟩
  · obtain ⟨written, wrote, readBack, working, outline, stillDistinct⟩ :=
      host.files.writeFile_over read (index.toText (dialect.getD detected)) host.now
    refine ⟨_, { host with files := written }, by rw [wrote]; rfl, ?_, readBack, again⟩
    exact FileTree.locate?_congr outline working (stillDistinct distinct) distinct located

/-- What formatting makes of a file. A text that is no index is reported and stays. Otherwise a
check leaves everything as it is and succeeds exactly on the canonical text; formatting leaves the
canonical text of the same index in the dialect that was asked for or detected, and after that no
formatting in this dialect changes anything. -/
theorem format_settles {host : Host} {path file source : String}
    (distinct : host.files.root.Distinct)
    (located : host.files.locate? path = some file) (read : host.files.text file = .ok source)
    (dialect : Option Dialect) :
    match SearchIndex.parse source with
    | .error e => ∀ checkOnly,
        format host path checkOnly dialect = .error (.unparsable file e) ∧
        ∀ invocation config, invocation.task = .format path checkOnly dialect →
          host.config invocation.config = .ok config →
          run host invocation = (.failed (.unparsable file e), host)
    | .ok (index, detected) =>
        (∃ code output, format host path true dialect = .ok (.done code output "", host) ∧
          (code = 0 ↔ source = index.toText (dialect.getD detected))) ∧
        ∃ output after, format host path false dialect = .ok (.done 0 output "", after) ∧
          after.files.text file = .ok (index.toText (dialect.getD detected)) ∧
          SearchIndex.parse (index.toText (dialect.getD detected)) =
            .ok (index, dialect.getD detected) ∧
          ∀ later : Host, later.files = after.files → ∀ runs : List (Bool × Option Dialect),
            (∀ run ∈ runs, run.2 = none ∨ run.2 = some (dialect.getD detected)) →
            formatEach path later runs = .ok (runs.map fun _ => .done 0 "" "", later) := by
  cases parsed : SearchIndex.parse source with
  | error e =>
    intro checkOnly
    have failed := format_of_unparsable located read parsed checkOnly dialect
    refine ⟨failed, fun invocation config task settings => ?_⟩
    simp only [run, settings, perform, task, failed]
  | ok found =>
    obtain ⟨index, detected⟩ := found
    refine ⟨?_, ?_⟩
    · rw [format_of_parsed located read parsed]
      split
      · rename_i same
        exact ⟨0, "", rfl, by simp [same]⟩
      · rename_i differs
        exact ⟨differsCode, _, rfl, by simp [differsCode, Ne.symm differs]⟩
    · obtain ⟨output, after, formatted, settled⟩ :=
        exists_settled distinct located read parsed dialect
      refine ⟨output, after, formatted, settled.read, settled.parsed, ?_⟩
      intro later files runs same
      apply formatEach_stays
      intro run member
      have settledLater : Settled later path file index (dialect.getD detected) :=
        ⟨files ▸ settled.located, files ▸ settled.read, settled.parsed⟩
      exact settledLater.format run.1 (same run member)

theorem format_settles_empty_index :
    let v : Value := .object [("docnames", .array []), ("terms", .object []), ("titles", .array [])]
    let source := Literal.writeCall .json v
    let host : Host := ⟨⟨.directory [("x.js", .file ⟨source.toUTF8, 0⟩)], []⟩, "/", none, 0⟩
    host.files.root.Distinct ∧ host.files.locate? "x.js" = some "x.js" ∧
      host.files.text "x.js" = .ok source ∧
      ∃ index output after, SearchIndex.ofValue v = .ok index ∧
        format host "x.js" false (some .legacy) = .ok (.done 0 output "", after) ∧
        after.files.text "x.js" = .ok (index.toText .legacy) := by
  intro v source host
  have distinct : host.files.root.Distinct := ⟨by decide, trivial, trivial⟩
  have resolved : host.files.resolve "x.js" = .ok ["x.js"] := by
    have plain : "x.js".contains '\x00' = false := by simp
    rw [FileTree.resolve, if_neg (by simp [plain])]
    rfl
  have node := FileTree.node_eq_ok.2 ⟨["x.js"], resolved, rfl⟩
  have located : host.files.locate? "x.js" = some "x.js" :=
    FileTree.locate?_eq_some.2 ⟨_, node, rfl⟩
  have read : host.files.text "x.js" = .ok source :=
    FileTree.text_eq_ok.2 ⟨_, node, FileTree.fromUTF8?_toUTF8 source⟩
  have ordered : v.Ordered := ⟨by decide, trivial, ⟨List.Pairwise.nil, trivial⟩, trivial, trivial⟩
  have taken := (Literal.takeText_writeCall .json ordered).2 ⟨by decide, rfl⟩
  have parsed := SearchIndex.parse_eq_ok.2 ⟨v, Literal.parse_eq_ok.2 ⟨_, taken, rfl⟩, rfl⟩
  have settles := format_settles distinct located read (some .legacy)
  rw [parsed] at settles
  obtain ⟨_, output, after, formatted, written, _⟩ := settles
  exact ⟨distinct, located, read, _, output, after, rfl, formatted, written⟩

end DocSearch.Command
