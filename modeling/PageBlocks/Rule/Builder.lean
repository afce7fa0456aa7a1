import PageBlocks.Cell.Wording
import PageBlocks.Json.Double
import PageBlocks.Rule.Reader
/-!
# Building rule documents

A rule document is put together step by step.  A block rule for a type that is there already is
merged into it, and a transformer replaces one of its name.  What is wrong with some of the values
shows only when the document is finished.

## Main results

* `RuleBuilder.build_setRoot` — a root that was set is the root of the document.
-/

namespace PageBlocks

/-- Adds an item to a list unless it holds an equal one. -/
def insertNew (same : α → α → Bool) (items : List α) (item : α) : List α :=
  if items.any (same item) then items else items ++ [item]

/-- The items of two lists in order, each once. -/
def union [DecidableEq α] (first second : List α) : List α :=
  (first ++ second).foldl (insertNew fun a b => decide (a = b)) []

/-- What is to be removed, as far as that is known to make sense. -/
inductive PendingEntry where
  | checked (entry : CleanupEntry)
  /-- Data that is no entry, which is found out when the document is finished. -/
  | unchecked (value : Json)
deriving Repr

namespace PendingEntry

/-- Are two entries the same? -/
def same : PendingEntry → PendingEntry → Bool
  | .checked first, .checked second => first = second
  | .unchecked first, .unchecked second => first.agrees second
  | _, _ => false

/-- The entry, if it is one. -/
def check : PendingEntry → Checked CleanupEntry
  | .checked entry => .ok entry
  | .unchecked value => CleanupEntry.check value

/-- The entry that data stands for.  An object has to be an attribute selector. -/
def ofJson : Json → Checked PendingEntry
  | .text content => .ok (.checked (.selector content))
  | .object fields =>
    (AttributeSelector.check (.object fields)).map fun selector => .checked (.byAttribute selector)
  | value => .ok (.unchecked value)

end PendingEntry

/-- The times at which something is removed. -/
inductive CleanupPhase where
  | start
  | finish
deriving DecidableEq, Repr

/-- Why a step of building a document fails. -/
inductive BuilderFault where
  | unknownPhase (name : String)
  /-- A list or an object does not tell a phase. -/
  | noPhase
  /-- What is to be removed is neither an entry nor a list of entries. -/
  | noEntries
  | issues (issues : List Issue)
deriving DecidableEq, Repr

/-- The wording of an unknown phase. -/
def unknownPhaseMessage (name : String) : String :=
  "Unknown cleanup phase '" ++ name ++ "' (expected 'start' or 'end')"

/-- The phase that data tells. -/
def CleanupPhase.ofJson : Json → Except BuilderFault CleanupPhase
  | .text "start" => .ok .start
  | .text "end" => .ok .finish
  | .list _ | .object _ => .error .noPhase
  | value => .error (.unknownPhase ((Value.ofJson value).wording Dom.empty))

/-- A rule document that is being put together. -/
structure RuleBuilder where
  root : Json
  start : List PendingEntry
  finish : List PendingEntry
  blocks : List BlockRule
  transformers : List TransformRule
deriving Repr

namespace RuleBuilder

/-- Starts from a document.  Entries that are there twice are kept once. -/
def ofDocument (document : RuleDocument) : RuleBuilder where
  root := match document.root with
    | some selector => .text selector
    | none => .null
  start := (union document.cleanup.start []).map .checked
  finish := (union document.cleanup.finish []).map .checked
  blocks := document.blocks
  transformers := document.transformers

/-- Sets the selector of the content, which is to be a text or nothing. -/
def setRoot (builder : RuleBuilder) (selector : Json) : RuleBuilder :=
  { builder with root := selector }

/-! ## What is removed -/

/-- Adds an entry unless it is there. -/
def addEntry (builder : RuleBuilder) (phase : CleanupPhase) (entry : PendingEntry) : RuleBuilder :=
  match phase with
  | .start => { builder with start := insertNew PendingEntry.same builder.start entry }
  | .finish => { builder with finish := insertNew PendingEntry.same builder.finish entry }

/-- Adds entries up to the first one with issues. -/
def addEntries (builder : RuleBuilder) (phase : CleanupPhase) :
    List Json → Except BuilderFault Unit × RuleBuilder
  | [] => (.ok (), builder)
  | value :: values =>
    match PendingEntry.ofJson value with
    | .error issues => (.error (.issues issues), builder)
    | .ok entry => (builder.addEntry phase entry).addEntries phase values

/-- Adds what is to be removed in a phase: one entry or a list of them. -/
def addCleanup (builder : RuleBuilder) (selectors phase : Json) :
    Except BuilderFault Unit × RuleBuilder :=
  match CleanupPhase.ofJson phase with
  | .error fault => (.error fault, builder)
  | .ok phase =>
    match selectors with
    | .list values => builder.addEntries phase values
    | .text _ | .object _ => builder.addEntries phase [selectors]
    | _ => (.error .noEntries, builder)

/-! ## Blocks and transformers -/

/-- An existing rule with the fields that a draft tells.  Selectors and variants are added. -/
def merge (existing : BlockRule) (draft : BlockDraft) : BlockRule where
  type := existing.type
  variants := union existing.variants (draft.variants.getD [])
  selectors := union existing.selectors (draft.selectors.getD [])
  strategy := draft.strategy.getD existing.strategy
  params := draft.params.getD existing.params
  mode := draft.mode.getD existing.mode

/-- The rules with a draft merged into the first rule of its type, or added at the end. -/
def mergeInto (draft : BlockDraft) : List BlockRule → List BlockRule
  | [] => [draft.toRule]
  | rule :: rules =>
    if rule.type = draft.type then merge rule draft :: rules else rule :: mergeInto draft rules

/-- Adds a block rule, or merges it into the rule for its type. -/
def addBlock (builder : RuleBuilder) (draft : BlockDraft) : RuleBuilder :=
  { builder with blocks := mergeInto draft builder.blocks }

/-- The transformers with one put in the place of the first one of its name, or at the end. -/
def replaceNamed (rule : TransformRule) : List TransformRule → List TransformRule
  | [] => [rule]
  | other :: rules => if other.name = rule.name then rule :: rules else other :: replaceNamed rule rules

/-- Adds a transformer, or replaces the one of its name. -/
def addTransformer (builder : RuleBuilder) (rule : TransformRule) : RuleBuilder :=
  { builder with transformers := replaceNamed rule builder.transformers }

/-- The first rule for a type of blocks. -/
def findBlock? (builder : RuleBuilder) (type : String) : Option BlockRule :=
  builder.blocks.find? (·.type = type)

/-- The first transformer of a name. -/
def findTransformer? (builder : RuleBuilder) (name : String) : Option TransformRule :=
  builder.transformers.find? (·.name = name)

/-! ## The document -/

/-- The document as it is now. -/
def build (builder : RuleBuilder) : Checked RuleDocument := do
  let (start, finish) ← Checked.both
    ((Checked.items PendingEntry.check builder.start).inside (.name "start"))
    ((Checked.items PendingEntry.check builder.finish).inside (.name "end"))
  let root ← (Checked.textOrNull builder.root).inside (.name "root")
  .ok ⟨root, ⟨start, finish⟩, builder.blocks, builder.transformers⟩

theorem build_setRoot {builder : RuleBuilder} {selector : String} {document : RuleDocument}
    (h : (builder.setRoot (.text selector)).build = .ok document) :
    document.root = some selector := by
  unfold build setRoot at h
  simp only [bind, Except.bind] at h
  split at h
  · simp at h
  · simp only [Checked.textOrNull, Checked.text, Except.map, Checked.inside, Except.ok.injEq] at h
    subst h
    rfl

end RuleBuilder

end PageBlocks
