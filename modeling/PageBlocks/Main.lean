import PageBlocks.Command.Importer
import PageBlocks.Command.Rules
import Std.Time
/-!
# The program

The first word says which of the two commands is run: `rules` keeps rules, and `importer` imports
pages.  Here are only reading and writing; what the commands do is decided in their own modules.
-/

namespace PageBlocks.Program

open PageBlocks.Command

/-- The names of the variables that settings are told by. -/
def variableNames : List String :=
  ["IMPORTER_LOG_LEVEL", "IMPORTER_LOG_FILE", "IMPORTER_RULES_DIR", "IMPORTER_HTML_PARSER"]

/-- The variables of the environment that are set. -/
def readVariables : IO (List (String × String)) :=
  variableNames.filterMapM fun name => do
    return (← IO.getEnv name).map fun value => (name, value)

/-- A file with its bytes.  A directory is a path that ends in a slash. -/
def readEntry (path : String) : IO Folder := do
  try
    let bytes ← IO.FS.readBinFile path
    return [(path, bytes.toList)]
  catch _ =>
    try
      let _ ← ((← IO.currentDir) / path).readDir
      return [(joinPath path "", [])]
    catch _ => return []

/-- The paths of the files with rules in a directory. -/
def rulePathsOn (directory : String) : IO (List String) := do
  try
    let entries ← ((← IO.currentDir) / directory).readDir
    return (entries.toList.map fun entry => joinPath directory entry.fileName).filter fun path =>
      Text.endsWith rulesEnding.toList path.toList
  catch _ => return []

/-- The folder with some files, as far as they are there. -/
def readFolder (paths : List String) : IO Folder := do
  return (← paths.eraseDups.mapM readEntry).flatten

/-- Makes the files what they are in a folder. -/
def writeFolder (before after : Folder) : IO Unit := do
  for path in before.paths do
    unless after.holds path do IO.FS.removeFile path
  for (path, bytes) in after do
    unless before.read? path = some bytes do
      let directory := "/".intercalate ((path.splitOn "/").dropLast)
      unless directory.isEmpty do IO.FS.createDirAll directory
      IO.FS.writeBinFile path ⟨bytes.toArray⟩

/-- The time, as it is noted beside what is stored. -/
def readTime : IO String := do
  try
    let now ← Std.Time.PlainDateTime.now
    return now.format "uuuu-MM-dd" ++ "T" ++ now.format "HH:mm:ss"
  catch _ => return ""

/-- The files that a command may read, as far as its words tell. -/
def filesOf (program : String) (words : List String) : List String :=
  if program = "importer" then
    match ImporterTask.read words with
    | .ok task => (task.rules :: task.files).map normalPath
    | .error _ => []
  else []

/-- The workplace with everything that a command may read. -/
def readWorkplace (program : String) (words : List String) : IO Workplace := do
  let empty : Workplace := ⟨(← IO.currentDir).toString, [], ← readVariables, ← readTime⟩
  let stored ← rulePathsOn empty.storeDirectory
  let logs := empty.settings.logFile.toList.map normalPath
  return empty.withFolder (← readFolder (stored ++ logs ++ filesOf program words))

/-- The command of a name. -/
def commandOf? : String → Option (Workplace → List String → Report × Folder)
  | "rules" => some runRules
  | "importer" => some (runImporter (standardHost Sanitize.standardSanitizer))
  | _ => none

/-- Runs the command that the first word names. -/
def run : List String → IO UInt32
  | [] => do
    IO.eprintln "usage: rules ... | importer ..."
    return 2
  | program :: words => do
    match commandOf? program with
    | none =>
      IO.eprintln "usage: rules ... | importer ..."
      return 2
    | some command =>
      let workplace ← readWorkplace program words
      let (report, folder) := command workplace words
      writeFolder workplace.folder folder
      IO.print report.output
      IO.eprint report.remarks
      return report.code.toUInt32

end PageBlocks.Program

/-- Runs the command that the first word names. -/
def main (words : List String) : IO UInt32 :=
  PageBlocks.Program.run words
