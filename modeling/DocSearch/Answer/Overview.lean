import DocSearch.Answer.Ranking
import DocSearch.Store.Loaded

/- What a reader is told about a whole index: its counts, its pages and what is wrong with it. -/
namespace DocSearch.Answer

def summaryText (summary : Summary) : String :=
  lines ([s!"Documents: {summary.documents}",
    s!"Terms: {summary.terms} (title terms: {summary.titleTerms})",
    s!"Objects: {summary.objects}"] ++
    summary.objectsByType.entries.map fun (objtype, count) => s!"  - {objtype}: {count}")

def listed (text : String) : String := "  • " ++ text

def reportText (report : Report) : String :=
  lines ((if report.isValid then ["Validation: OK"]
      else s!"Validation: {report.errors.length} errors" ::
        report.errors.map (listed ·.message)) ++
    (if report.warnings.isEmpty then []
      else "Warnings:" :: report.warnings.map (listed ·.message)))

def loadedText (loaded : Loaded) (previous : Option String) : String :=
  let schema := match loaded.index.envversion.bind EnvVersion.builder? with
    | some n => s!", environment schema {n.toInt}"
    | none => ""
  lines [s!"Index loaded: {loaded.path}", s!"Dialect: {loaded.dialect.name}{schema}"] ++
    (match previous with
      | some path =>
        if FileTree.plain path = FileTree.plain loaded.path then ""
        else s!"Previous index: {path}\n"
      | none => "") ++
    "\n" ++ summaryText loaded.index.summary ++ "\n" ++ reportText loaded.report

def documentText (document : Document) : String :=
  s!"  {document.doc}. {document.docname}" ++
    (if document.title.isEmpty then "" else " - " ++ document.title) ++
    (match document.filename with
      | some filename => s!" ({filename})"
      | none => "") ++ "\n"

def inspect (loaded : Loaded) : String :=
  let index := loaded.index
  s!"Index: {loaded.path} ({loaded.dialect.name} dialect)\n\n" ++ summaryText index.summary ++
    (match index.envversion with
      | some version => s!"Environment: {version.text}\n"
      | none => "") ++
    (if index.extra.isEmpty then ""
      else "Other fields: " ++ Text.joined ", " index.extra.keys ++ "\n") ++
    "\nDocuments:\n" ++ String.join (index.documents.map documentText) ++ "\n" ++
    reportText loaded.report

end DocSearch.Answer
