import PageBlocks.Page.Reading
import PageBlocks.Store.Basic
import PageBlocks.Text.Case
/-!
# Settings

What is the same for all imports is told by the variables of the environment.
-/

namespace PageBlocks

open Text

/-- How grave a record of a log is at least. -/
abbrev LogLevel := Int

/-- The usual level. -/
def standardLevel : LogLevel := 20

/-- The names of levels. -/
def levelNames : List (String × LogLevel) :=
  [("CRITICAL", 50), ("FATAL", 50), ("ERROR", 40), ("WARNING", 30), ("WARN", 30), ("INFO", 20),
    ("DEBUG", 10), ("NOTSET", 0)]

/-- The level with a name in capitals. -/
def levelOfName (name : String) : LogLevel :=
  (levelNames.lookup name).getD standardLevel

/-- A name in capitals. -/
def capitals (name : String) : String :=
  String.ofList (upper name.toList)

/-- What is the same for all imports. -/
structure Settings where
  levelName : String
  /-- The file that records are kept in as well. -/
  logFile : Option String
  /-- The directory of the store of rules. -/
  directory : String
  /-- The name of the way in which markup is read. -/
  readerName : String
deriving DecidableEq, Repr

namespace Settings

/-- The settings that variables of the environment tell. -/
def ofEnvironment (environment : List (String × String)) : Settings :=
  let value (name usual : String) : String := (environment.lookup name).getD usual
  let logFile := value "IMPORTER_LOG_FILE" ""
  { levelName := capitals (value "IMPORTER_LOG_LEVEL" "INFO")
    logFile := if logFile.isEmpty then none else some logFile
    directory := value "IMPORTER_RULES_DIR" defaultDirectory
    readerName := value "IMPORTER_HTML_PARSER" "html5lib" }

/-- The level that the settings name. -/
def level (settings : Settings) : LogLevel :=
  levelOfName settings.levelName

/-- The way in which markup is read. -/
def reader (settings : Settings) : PageReader :=
  .ofName settings.readerName

end Settings

end PageBlocks
