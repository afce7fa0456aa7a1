import PageBlocks.Command.Arguments
import PageBlocks.Import.Page
import PageBlocks.Setup.Log
/-!
# What commands work with

A command is run at a workplace: a directory with files, variables of the environment and a clock.
It leaves a report and the files as they are then.
-/

namespace PageBlocks.Command

/-- Where a command is run. -/
structure Workplace where
  /-- The absolute path of the directory. -/
  directory : String
  folder : Folder
  environment : List (String × String)
  /-- The time, as it is noted beside what is stored. -/
  time : String

/-- What a command says. -/
structure Report where
  /-- The number that says whether the command did what it was told. -/
  code : Nat
  output : String
  /-- What is said beside the output. -/
  remarks : String
deriving DecidableEq, Repr

namespace Report

/-- The command did what it was told. -/
def done (output remarks : String) : Report := ⟨0, output, remarks⟩

/-- The command did not do what it was told. -/
def failed (remark : String) : Report := ⟨1, "", "✗ " ++ remark ++ "\n"⟩

/-- How a command is used. -/
def usage (words : String) : String := "usage: " ++ words ++ "\n"

/-- A command that is not run. -/
def ofEnding (words : String) : Ending → Report
  | .help => ⟨0, usage words, ""⟩
  | .misuse => ⟨2, "", usage words⟩

end Report

namespace Workplace

/-- The settings that hold at a workplace. -/
def settings (workplace : Workplace) : Settings :=
  .ofEnvironment workplace.environment

/-- The directory with the store of rules. -/
def storeDirectory (workplace : Workplace) : String :=
  normalPath workplace.settings.directory

/-- The workplace with other files. -/
def withFolder (workplace : Workplace) (folder : Folder) : Workplace :=
  { workplace with folder := folder }

/-- The workplace with the file for records, if there is to be one. -/
def openLog (workplace : Workplace) : Workplace :=
  match workplace.settings.logFile with
  | some path => workplace.withFolder (workplace.folder.ensure (normalPath path))
  | none => workplace

/-- The rules of a site. -/
def rulesOf? (workplace : Workplace) (site : String) : Option RuleDocument :=
  workplace.folder.rulesOf? workplace.storeDirectory site

/-- The remark that a site has no rules. -/
def noRulesRemark (site : String) : String :=
  "No rules stored for site '" ++ site ++ "'"

end Workplace

end PageBlocks.Command
