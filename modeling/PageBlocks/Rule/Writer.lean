import PageBlocks.Json.Writer
import PageBlocks.Rule.Basic
/-!
# Writing rule documents

Rule documents are written as JSON objects in which each field is told, also where it has its
default.
-/

namespace PageBlocks

/-- Texts as a JSON list. -/
def textsJson (texts : List String) : Json :=
  .list (texts.map Json.text)

/-- A text or nothing. -/
def textOrNullJson : Option String → Json
  | some content => .text content
  | none => .null

/-- An attribute selector. -/
def AttributeSelector.toJson (selector : AttributeSelector) : Json :=
  .object [("attribute", .text selector.attributeName),
    ("property", textOrNullJson selector.property), ("value", .text selector.value)]

/-- What is to be removed. -/
def CleanupEntry.toJson : CleanupEntry → Json
  | .selector content => .text content
  | .byAttribute condition => condition.toJson

/-- What is removed before and after the blocks are made. -/
def Cleanup.toJson (cleanup : Cleanup) : Json :=
  .object [("start", .list (cleanup.start.map CleanupEntry.toJson)),
    ("end", .list (cleanup.finish.map CleanupEntry.toJson))]

/-- A block rule. -/
def BlockRule.toJson (rule : BlockRule) : Json :=
  .object [("type", .text rule.type), ("variants", textsJson rule.variants),
    ("selectors", textsJson rule.selectors),
    ("parse", textOrNullJson (rule.strategy.map Strategy.name)), ("params", .object rule.params),
    ("insert_mode", .text rule.mode.name)]

/-- A transformer. -/
def TransformRule.toJson (rule : TransformRule) : Json :=
  .object [("name", .text rule.name)]

/-- A rule document. -/
def RuleDocument.toJson (document : RuleDocument) : Json :=
  .object [("root", textOrNullJson document.root), ("cleanup", document.cleanup.toJson),
    ("blocks", .list (document.blocks.map BlockRule.toJson)),
    ("transformers", .list (document.transformers.map TransformRule.toJson))]

/-- A rule document as text. -/
def RuleDocument.render (document : RuleDocument) : String :=
  document.toJson.render

end PageBlocks
