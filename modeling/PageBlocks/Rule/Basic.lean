import PageBlocks.Json.Basic
import PageBlocks.Strategy.Basic
/-!
# Rule documents

A rule document says how pages of a site become documents with blocks: where the content is, what
is removed before and after the blocks are made, and which blocks are made from which elements.

## Main results

* `InsertMode.ofName?_name` — names of modes are read back.
-/

namespace PageBlocks

/-- Removes elements by what an attribute of theirs holds, or by a property in it. -/
structure AttributeSelector where
  attributeName : String
  property : Option String
  value : String
deriving DecidableEq, Repr

/-- What is to be removed. -/
inductive CleanupEntry where
  /-- What a selector finds, or text that a selector with a literal names. -/
  | selector (text : String)
  | byAttribute (selector : AttributeSelector)
deriving DecidableEq, Repr

/-- What is removed before and after the blocks are made. -/
structure Cleanup where
  start : List CleanupEntry
  finish : List CleanupEntry
deriving DecidableEq, Repr

/-- Nothing is removed. -/
def Cleanup.none : Cleanup := ⟨[], []⟩

/-- All that is removed, in order. -/
def Cleanup.all (cleanup : Cleanup) : List CleanupEntry :=
  cleanup.start ++ cleanup.finish

/-- Where a block goes. -/
inductive InsertMode where
  /-- In the place of the element that it is made from. -/
  | replace
  /-- At the end of the content. -/
  | append
  /-- At the start of the content. -/
  | prepend
deriving DecidableEq, Repr

namespace InsertMode

/-- The name of a mode. -/
def name : InsertMode → String
  | replace => "replace"
  | append => "append"
  | prepend => "prepend"

/-- The mode of a name. -/
def ofName? (text : String) : Option InsertMode :=
  [replace, append, prepend].find? fun mode => mode.name = text

theorem ofName?_name (mode : InsertMode) : ofName? mode.name = some mode := by
  cases mode <;> decide

end InsertMode

/-- How elements are found and each of them becomes a block. -/
structure BlockRule where
  type : String
  variants : List String
  selectors : List String
  strategy : Option Strategy
  params : Json.Fields
  mode : InsertMode
deriving Repr

/-- A transformer, of which only the name is kept. -/
structure TransformRule where
  name : String
deriving DecidableEq, Repr

/-- A rule document. -/
structure RuleDocument where
  /-- The selector of the element that holds the content. -/
  root : Option String
  cleanup : Cleanup
  blocks : List BlockRule
  transformers : List TransformRule
deriving Repr

/-- The selector of the content where a document names none. -/
def defaultRoot : String := "main"

/-- The document that names nothing. -/
def RuleDocument.standard : RuleDocument :=
  ⟨some defaultRoot, .none, [], []⟩

/-- A block rule of which only some fields are told. -/
structure BlockDraft where
  type : String
  variants : Option (List String)
  selectors : Option (List String)
  /-- The strategy, where being told that there is none differs from not being told. -/
  strategy : Option (Option Strategy)
  params : Option Json.Fields
  mode : Option InsertMode
deriving Repr

/-- The rule of a draft, with what is not told left at its default. -/
def BlockDraft.toRule (draft : BlockDraft) : BlockRule where
  type := draft.type
  variants := draft.variants.getD []
  selectors := draft.selectors.getD []
  strategy := draft.strategy.getD none
  params := draft.params.getD []
  mode := draft.mode.getD .replace

end PageBlocks
