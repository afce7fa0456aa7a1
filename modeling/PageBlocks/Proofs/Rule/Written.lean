import PageBlocks.Rule.Reader
import PageBlocks.Rule.Writer
/-!
# Written rule documents pass the check

What is written for a rule document tells each field, and the check of the field takes it for what it
was, down to the entries and the rules in the lists of the document.

## Main results

* `Checked.items_map` — a list whose items pass a check as what they were passes it as the list.
* `RuleDocument.check_toJson` — a written rule document passes the check as the document.
-/

namespace PageBlocks

namespace Checked

variable {check : β → Checked α} {write : α → β}

theorem itemsFrom_map (h : ∀ item, check (write item) = .ok item) (place : Nat) (items : List α) :
    itemsFrom check place (items.map write) = .ok items := by
  induction items generalizing place with
  | nil => rfl
  | cons item items ih => simp [itemsFrom, h, inside, both, ih, Except.map]

/-- Items that pass a check as what they were. -/
theorem items_map (h : ∀ item, check (write item) = .ok item) (items : List α) :
    Checked.items check (items.map write) = .ok items :=
  itemsFrom_map h 0 items

theorem list_map {check : Json → Checked α} {write : α → Json}
    (h : ∀ item, check (write item) = .ok item) (items : List α) :
    list check (.list (items.map write)) = .ok items :=
  items_map h items

theorem list_textsJson (texts : List String) : list text (textsJson texts) = .ok texts := by
  have hitem (content : String) : text (.text content) = .ok content := rfl
  exact list_map hitem texts

theorem textOrNull_textOrNullJson (content : Option String) :
    textOrNull (textOrNullJson content) = .ok content := by
  cases content <;> rfl

end Checked

open Checked

theorem AttributeSelector.check_toJson (selector : AttributeSelector) :
    check selector.toJson = .ok selector := by
  obtain ⟨attributeName, property, value⟩ := selector
  cases property <;> rfl

theorem CleanupEntry.check_toJson (entry : CleanupEntry) : check entry.toJson = .ok entry := by
  cases entry with
  | selector content => rfl
  | byAttribute selector =>
    rw [toJson, check, AttributeSelector.check_toJson]
    rfl

theorem Cleanup.check_toJson (cleanup : Cleanup) : check cleanup.toJson = .ok cleanup := by
  have hstart := list_map CleanupEntry.check_toJson cleanup.start
  have hfinish := list_map CleanupEntry.check_toJson cleanup.finish
  simp [check, toJson, record, Checked.optional, Json.get?, hstart, hfinish, extras, inside, both,
    Except.map]

theorem Strategy.check_name (strategy : Option Strategy) :
    check (textOrNullJson (strategy.map Strategy.name)) = .ok strategy := by
  cases strategy with
  | none => rfl
  | some strategy => simp [textOrNullJson, check, ofName?_name]

theorem InsertMode.check_name (mode : InsertMode) : check (.text mode.name) = .ok mode := by
  simp [check, Json.text?, ofName?_name]

theorem BlockRule.check_toJson (rule : BlockRule) : check rule.toJson = .ok rule := by
  have hvariants := list_textsJson rule.variants
  have hselectors := list_textsJson rule.selectors
  have hstrategy := Strategy.check_name rule.strategy
  have hmode := InsertMode.check_name rule.mode
  simp [check, BlockDraft.check, toJson, record, required, Checked.optional, Json.get?, text, mapping,
    hvariants, hselectors, hstrategy, hmode, extras, BlockDraft.fieldNames, inside, both, Except.map,
    BlockDraft.toRule]

theorem TransformRule.check_toJson (rule : TransformRule) : check rule.toJson = .ok rule := rfl

/-- A written rule document passes the check as the document. -/
theorem RuleDocument.check_toJson (document : RuleDocument) : check document.toJson = .ok document := by
  have hroot := textOrNull_textOrNullJson document.root
  have hcleanup := Cleanup.check_toJson document.cleanup
  have hblocks := list_map BlockRule.check_toJson document.blocks
  have htransformers := list_map TransformRule.check_toJson document.transformers
  simp [check, toJson, record, Checked.optional, Json.get?, hroot, hcleanup, hblocks, htransformers,
    extras, inside, both, Except.map]

end PageBlocks
