import PageBlocks.Command.Report
import PageBlocks.Text.Quoted
/-!
# The command that imports pages

Pages are read from files, imported by the rules of a file or of a site in the store, and told as
JSON.  A page that cannot be imported does not keep the others from it.

## Main results

* `ImporterTask.read_nothing` — files have to be told.
-/

namespace PageBlocks.Command

open PageBlocks.Text

/-- What is to be imported, and how. -/
structure ImporterTask where
  files : List String
  /-- The file with the rules. -/
  rules : String
  /-- The site whose rules are in the store. -/
  site : String
  address : String
  /-- The file that the results are written to, rather than told. -/
  output : String
deriving Repr

namespace ImporterTask

/-- What the command can be told. -/
def interface : Interface :=
  let flag (short long name : String) : Flag := ⟨[long, short], name, true, none, false⟩
  ⟨[helpFlag, flag "-r" "--rules" "rules", flag "-s" "--site" "site", flag "-u" "--url" "url",
      flag "-o" "--output" "output", ⟨["--verbose", "-v"], "verbose", false, none, false⟩],
    [⟨"files", .several, none⟩], ["rules", "site"]⟩

/-- The task that words tell. -/
def read (words : List String) : Except Ending ImporterTask := do
  let given ← interface.readAll words
  let word (name : String) : String := (given.word? name).getD ""
  return ⟨given.words "files", word "rules", word "site", word "url", word "output"⟩

theorem read_nothing : (read []).toOption.isNone = true := by rfl

end ImporterTask

/-- A path as it is shown: the directory itself is a dot. -/
def shownPath (path : String) : String :=
  if path = "" then "." else path

/-- Why the file with a path cannot be read. -/
def unreadableMessage (folder : Folder) (path : String) : String :=
  let reason :=
    if folder.isDirectory path then "[Errno 21] Is a directory: "
    else if folder.goesThroughFile path then "[Errno 20] Not a directory: "
    else "[Errno 2] No such file or directory: "
  reason ++ String.ofList (quoted (shownPath path).toList)

/-- The result for a file as data, and what is said about it. -/
abbrev FileResult := Json × String

/-- The result for a page that cannot be imported. -/
def failedResult (name message : String) : FileResult :=
  (.object [("file", .text name), ("status", .text "error"), ("error", .text message)],
    "  ✗ Error: " ++ message ++ "\n")

/-- The result for a page. -/
def importedResult (name : String) (imported : Import.Imported) : FileResult :=
  let path := String.ofList imported.path
  (.object [("file", .text name), ("status", .text "success"), ("path", .text path),
    ("html", .text imported.markup)],
    "  ✓ " ++ path ++ " (" ++ toString imported.tableCount ++ " blocks)\n")

/-- Imports the page of a file. -/
def importOne (host : Host) (workplace : Workplace) (document : RuleDocument) (address file : String) :
    FileResult :=
  let path := normalPath file
  let name := fileName file
  match workplace.folder.read? path with
  | none => failedResult name (unreadableMessage workplace.folder path)
  | some bytes =>
    match Import.importFile host workplace.settings.reader document [] address
      (resolvedPath (if path.toList.head? = some '/' then path
        else joinPath workplace.directory path)) bytes with
    | .error fault => failedResult name fault.message
    | .ok imported => importedResult name imported

/-- Imports the pages of several files: the results, and what is said about them. -/
def importEach (host : Host) (workplace : Workplace) (document : RuleDocument) (address : String)
    (files : List String) : List Json × String :=
  let results := files.map fun file =>
    let (result, remark) := importOne host workplace document address file
    (result, "Transforming: " ++ fileName file ++ "\n" ++ remark)
  (results.map (·.1), String.join (results.map (·.2)))

/-- The rules that pages are imported by, or a remark. -/
def ImporterTask.document (workplace : Workplace) (task : ImporterTask) :
    Except String RuleDocument :=
  if task.rules ≠ "" then
    let path := normalPath task.rules
    match loadRules (workplace.folder.read? path) with
    | .error (.unreadable .missing) =>
      .error ("Cannot read rule document: " ++ unreadableMessage workplace.folder path ++ " (" ++
        shownPath path ++ ")")
    | .error fault => .error (fault.message path ++ " (" ++ path ++ ")")
    | .ok document => .ok document
  else match workplace.rulesOf? task.site with
    | none => .error (Workplace.noRulesRemark task.site)
    | some document => .ok document

/-- How the command is used. -/
def importerUsage : String :=
  "importer [-h] (--rules RULES | --site SITE) [--url URL] [--output OUTPUT] [--verbose] files ..."

/-- Imports what is to be imported. -/
def ImporterTask.run (host : Host) (workplace : Workplace) (task : ImporterTask) :
    Report × Folder :=
  match task.document workplace with
  | .error remark => (.failed remark, workplace.folder)
  | .ok document =>
    if task.address ≠ "" && 1 < task.files.length then
      (.ofEnding importerUsage .misuse, workplace.folder)
    else
      let (results, remarks) := importEach host workplace document task.address task.files
      let output := Json.render (.list results)
      if task.output ≠ "" then
        (.done "" (remarks ++ "\nSaved to: " ++ task.output ++ "\n"),
          workplace.folder.write (normalPath task.output) (Utf8.encode output.toList))
      else (.done (output ++ "\n") remarks, workplace.folder)

/-- Runs the command that imports pages. -/
def runImporter (host : Host) (workplace : Workplace) (words : List String) : Report × Folder :=
  match ImporterTask.read words with
  | .error ending => (.ofEnding importerUsage ending, workplace.folder)
  | .ok task => task.run host workplace.openLog

end PageBlocks.Command
