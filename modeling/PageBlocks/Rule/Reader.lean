import PageBlocks.Rule.Basic
import PageBlocks.Schema.Check
/-!
# Reading rule documents

Rule documents come as JSON objects.  All that is wrong with one is told at once: for each object
the fields in their order, and after them those that are not known.
-/

namespace PageBlocks

open Checked

/-- An attribute selector. -/
def AttributeSelector.check : Json → Checked AttributeSelector :=
  record "AttributeSelector" fun fields =>
    (both (required fields "attribute" text) <|
      both (optional fields "property" textOrNull) <|
      both (optional fields "value" text) <|
      extras ["attribute", "property", "value"] fields).map
      fun (attributeName, property, value, ()) => ⟨attributeName, property.getD none, value.getD ""⟩

/-- What is to be removed: a selector or an attribute selector. -/
def CleanupEntry.check (value : Json) : Checked CleanupEntry :=
  (inside (.name "str") ((text value).map CleanupEntry.selector)).orElse
    (inside (.name "AttributeSelector") ((AttributeSelector.check value).map .byAttribute))

/-- What is removed before and after the blocks are made. -/
def Cleanup.check : Json → Checked Cleanup :=
  record "Cleanup" fun fields =>
    (both (optional fields "start" (list CleanupEntry.check)) <|
      both (optional fields "end" (list CleanupEntry.check)) <|
      extras ["start", "end"] fields).map
      fun (start, finish, ()) => ⟨start.getD [], finish.getD []⟩

/-- A strategy, by its name, or none. -/
def Strategy.check : Json → Checked (Option Strategy)
  | .null => .ok none
  | .text name =>
    match Strategy.ofName? name with
    | some strategy => .ok (some strategy)
    | none => fail (.unknownStrategy name)
  | _ => .error [⟨[.name "str"], .noText⟩, ⟨[.name "callable"], .notCallable⟩]

/-- Where a block goes. -/
def InsertMode.check (value : Json) : Checked InsertMode :=
  match value.text?.bind InsertMode.ofName? with
  | some mode => .ok mode
  | none => fail (.noneOf "'replace', 'append' or 'prepend'")

/-- The fields of a block rule. -/
def BlockDraft.fieldNames : List String :=
  ["type", "variants", "selectors", "parse", "params", "insert_mode"]

/-- A block rule of which only some fields are told. -/
def BlockDraft.check : Json → Checked BlockDraft :=
  record "BlockRule" fun fields =>
    (both (required fields "type" text) <|
      both (optional fields "variants" (list text)) <|
      both (optional fields "selectors" (list text)) <|
      both (optional fields "parse" Strategy.check) <|
      both (optional fields "params" mapping) <|
      both (optional fields "insert_mode" InsertMode.check) <|
      extras fieldNames fields).map
      fun (type, variants, selectors, strategy, params, mode, ()) =>
        ⟨type, variants, selectors, strategy, params, mode⟩

/-- A block rule. -/
def BlockRule.check (value : Json) : Checked BlockRule :=
  (BlockDraft.check value).map BlockDraft.toRule

/-- A transformer. -/
def TransformRule.check : Json → Checked TransformRule :=
  record "TransformRule" fun fields =>
    (both (required fields "name" text) (extras ["name"] fields)).map fun (name, ()) => ⟨name⟩

/-- A rule document. -/
def RuleDocument.check : Json → Checked RuleDocument :=
  record "ImportRules" fun fields =>
    (both (optional fields "root" textOrNull) <|
      both (optional fields "cleanup" Cleanup.check) <|
      both (optional fields "blocks" (list BlockRule.check)) <|
      both (optional fields "transformers" (list TransformRule.check)) <|
      extras ["root", "cleanup", "blocks", "transformers"] fields).map
      fun (root, cleanup, blocks, transformers, ()) =>
        ⟨root.getD (some defaultRoot), cleanup.getD .none, blocks.getD [], transformers.getD []⟩

end PageBlocks
