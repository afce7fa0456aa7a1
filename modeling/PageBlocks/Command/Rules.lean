import PageBlocks.Command.Report
import PageBlocks.Rule.Builder
/-!
# The command that keeps rules

Rules of sites are listed, shown, created, changed and deleted in the store.

## Main results

* `RulesTask.read_nothing` — a task has to be told.
-/

namespace PageBlocks.Command

open PageBlocks.Text

/-- What is to be done with rules. -/
inductive RulesTask where
  | list
  | show (site : String)
  | create (site root : String)
  | addBlock (site : String) (given : Given)
  | addCleanup (site : String) (selectors : List String) (phase : String)
  | setRoot (site selector : String)
  | delete (site : String)
deriving Repr

/-- An option with a value. -/
def valueFlag (spellings : List String) (name : String) (choices : Option (List String)) : Flag :=
  ⟨spellings, name, true, choices, false⟩

/-- An argument of one word. -/
def wordArgument (name : String) : Argument := ⟨name, .one, none⟩

namespace RulesTask

/-- What each task can be told, by its name. -/
def interfaces : List (String × Interface) :=
  let site := wordArgument "site"
  [("list", ⟨[helpFlag], [], []⟩),
    ("show", ⟨[helpFlag], [site], []⟩),
    ("init", ⟨[helpFlag, valueFlag ["--root"] "root" none], [site], []⟩),
    ("add-block",
      ⟨[helpFlag, valueFlag ["--variant"] "variant" none, valueFlag ["--parse"] "parse" none,
          valueFlag ["--cells"] "cells" none,
          valueFlag ["--insert-mode"] "insert_mode" (some ["replace", "append", "prepend"])],
        [site, wordArgument "type", ⟨"selectors", .any, none⟩], []⟩),
    ("add-cleanup",
      ⟨[helpFlag, valueFlag ["--phase"] "phase" (some ["start", "end"])],
        [site, ⟨"selectors", .several, none⟩], []⟩),
    ("set-root", ⟨[helpFlag], [site, wordArgument "selector"], []⟩),
    ("delete", ⟨[helpFlag], [site], []⟩)]

/-- What the command can be told before its task. -/
def outerInterface : Interface :=
  ⟨[helpFlag], [⟨"command", .rest, some (interfaces.map (·.1))⟩], []⟩

/-- The task of a name with what it was told. -/
def ofGiven (name : String) (given : Given) : RulesTask :=
  let site := (given.word? "site").getD ""
  match name with
  | "show" => .show site
  | "init" => .create site ((given.word? "root").getD defaultRoot)
  | "add-block" => .addBlock site given
  | "add-cleanup" =>
    .addCleanup site (given.words "selectors") ((given.word? "phase").getD "start")
  | "set-root" => .setRoot site ((given.word? "selector").getD "")
  | "delete" => .delete site
  | _ => .list

/-- The task that words tell. -/
def read (words : List String) : Except Ending RulesTask := do
  let (outer, extra) ← outerInterface.read words
  match outer.words "command" with
  | [] => .error .misuse
  | name :: words =>
    match interfaces.lookup name with
    | none => .error .misuse
    | some interface => do
      let given ← interface.readAll words
      if extra.isEmpty then .ok (ofGiven name given) else .error .misuse

theorem read_nothing : (read []).toOption.isNone = true := by rfl

end RulesTask

/-! ## Changes -/

/-- The block rule that options tell, as data; the cells are written as JSON. -/
def blockRuleData (given : Given) : Except Json.Fault Json := do
  let texts (words : List String) : Json := .list (words.map Json.text)
  let present (name : String) : Option String := (given.word? name).filter (!·.isEmpty)
  let cells ← match present "cells" with
    | none => .ok []
    | some text => do
      let cells ← Json.parse text
      .ok [("params", .object [("cells", cells)])]
  let option (name : String) : Json.Fields :=
    ((present name).map fun value => (name, Json.text value)).toList
  return .object ([("type", .text ((given.word? "type").getD "")),
    ("selectors", texts (given.words "selectors")), ("variants", texts (given.words "variant"))] ++
    option "parse" ++ cells ++ option "insert_mode")

/-- Adds the block rule that options tell, or says what is wrong with it. -/
def blockStep (given : Given) (builder : RuleBuilder) : Except String RuleBuilder :=
  match blockRuleData given with
  | .error fault => .error fault.message
  | .ok value =>
    match BlockDraft.check value with
    | .error issues => .error (Issue.summary "BlockRule" issues)
    | .ok draft => .ok (builder.addBlock draft)

/-- Adds selectors of what is to be removed. -/
def cleanupStep (selectors : List String) (phase : String) (builder : RuleBuilder) :
    Except String RuleBuilder :=
  .ok (builder.addCleanup (.list (selectors.map Json.text)) (.text phase)).2

/-- Keeps what a builder has put together for a site. -/
def save (workplace : Workplace) (site : String) (builder : RuleBuilder) : Report × Folder :=
  match builder.build with
  | .error issues => (.failed (Issue.summary "ImportRules" issues), workplace.folder)
  | .ok document =>
    if isStorable site then
      (.done "" ("✓ Saved rules for " ++ site ++ "\n"),
        workplace.folder.putRules workplace.storeDirectory site workplace.time document
          (.object []))
    else (.failed ("File name too long: " ++ site), workplace.folder)

/-- Changes the rules of a site. -/
def change (workplace : Workplace) (site : String)
    (step : RuleBuilder → Except String RuleBuilder) : Report × Folder :=
  match workplace.rulesOf? site with
  | none =>
    (.failed (Workplace.noRulesRemark site ++ " (run init first)"), workplace.folder)
  | some document =>
    match step (.ofDocument document) with
    | .error remark => (.failed ("Invalid rule: " ++ remark), workplace.folder)
    | .ok builder => save workplace site builder

/-- Deletes the rules of a site. -/
def deleteRules (workplace : Workplace) (site : String) : Report × Folder :=
  let path := sitePath workplace.storeDirectory site
  if workplace.folder.holds path then
    (.done "" ("✓ Deleted rules for " ++ site ++ "\n"), workplace.folder.remove path)
  else (.failed (Workplace.noRulesRemark site), workplace.folder)

/-! ## The command -/

/-- Does what is to be done with rules. -/
def RulesTask.run (workplace : Workplace) : RulesTask → Report × Folder
  | .list =>
    match workplace.folder.summaries workplace.storeDirectory with
    | .ok summaries =>
      (.done (Json.renderAscii (.list (summaries.map Summary.toJson)) ++ "\n") "",
        workplace.folder)
    | .error _ => (.failed "An entry of the store is not as it should be", workplace.folder)
  | .show site =>
    match workplace.rulesOf? site with
    | none => (.failed (Workplace.noRulesRemark site), workplace.folder)
    | some document => (.done (document.render ++ "\n") "", workplace.folder)
  | .create site root =>
    save workplace site ((RuleBuilder.ofDocument .standard).setRoot (.text root))
  | .addBlock site given => change workplace site (blockStep given)
  | .addCleanup site selectors phase => change workplace site (cleanupStep selectors phase)
  | .setRoot site selector => change workplace site fun builder =>
      .ok (builder.setRoot (.text selector))
  | .delete site => deleteRules workplace site

/-- How the command is used. -/
def rulesUsage : String :=
  "rules [-h] \x7b" ++ ",".intercalate (RulesTask.interfaces.map (·.1)) ++ "\x7d ..."

/-- Runs the command that keeps rules. -/
def runRules (workplace : Workplace) (words : List String) : Report × Folder :=
  match RulesTask.read words with
  | .error ending => (.ofEnding rulesUsage ending, workplace.folder)
  | .ok task => task.run workplace.openLog

end PageBlocks.Command
