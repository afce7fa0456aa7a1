import PageBlocks.Import.Removal
import PageBlocks.Strategy.Finder
/-!
# Importing a page

A page is imported in four steps: the element with the content is looked up, what is not wanted is
removed from it, blocks are made from the elements that the rules find, and again something is
removed.
-/

namespace PageBlocks.Import

/-- A block rule with the way in which the cells of its blocks are found. -/
structure Task where
  rule : BlockRule
  finder : CellFinder

/-- The task of a rule, whose strategy is named or told by the type of its blocks. -/
def Task.ofRule (host : Host) (rule : BlockRule) : Task :=
  ⟨rule, (Strategy.choose rule.type rule.strategy).finder host⟩

/-- What a host is asked for when a block is to be made, and the page at that moment. -/
structure Request where
  name : String
  variants : List String
  cells : Value
  page : Dom

/-- The placing of a block: what it was made from and how it went into the page. -/
structure Placement where
  /-- The element that the block was made from. -/
  candidate : NodeId
  block : NodeId
  mode : InsertMode
  /-- The page with the block beside the document, just before it was placed. -/
  before : Dom
  /-- The page just after. -/
  after : Dom

/-- What came of asking for a block. -/
structure Creation where
  request : Request
  /-- How the block was placed, if there was a block and a place for it. -/
  placement : Option Placement

/-- Was there a block, and a place for it? -/
def Creation.isPlaced (creation : Creation) : Bool :=
  creation.placement.isSome

/-- The number of blocks that were placed. -/
def placedCount (creations : List Creation) : Nat :=
  creations.countP Creation.isPlaced

/-- Elements that are always removed. -/
def ignoredElements : List CleanupEntry :=
  ["style", "source", "script", "noscript", "iframe"].map CleanupEntry.selector

/-- The element with the content: the one that a selector finds first, or else the body. -/
def rootOf (dom : Dom) (selector : Option String) : NodeId :=
  (selector.bind (dom.selectFirst? Dom.documentId)).getD dom.bodyOrDocument

/-- The elements that blocks are made from: all that the selectors find, or else the content as a
whole when none of them is valid. -/
def candidates (dom : Dom) (root : NodeId) (selectors : List String) : List NodeId :=
  match selectors.filter Selector.isValid with
  | [] => [root]
  | valid => valid.flatMap (dom.selectText root)

/-- Cells without rows that are nothing. -/
def dropAbsent : Value → Value
  | .list items => .list (items.filter Value.isPresent)
  | cells => cells

/-- Are there cells to make a block from? -/
def hasCells : Value → Bool
  | .null => false
  | cells => !cells.isEmptyRows

/-- The page with a block put into it.  An element that nothing holds has no place to give. -/
def place? (dom : Dom) (root element block : NodeId) : InsertMode → Option Dom
  | .append => some (dom.append root block)
  | .prepend => some (dom.prepend root block)
  | .replace =>
    if (dom.parent? element).isNone then none else some (dom.replaceWith element block)

/-- The cells of an element, as they are found for a task. -/
def findCells (params : Params) (task : Task) (dom : Dom) (element : NodeId) :
    Outcome BlockFault Value :=
  let own : Params := task.rule.params.map fun (name, value) => (name, Value.ofJson value)
  let (found, dom) := task.finder dom element (Params.override params own)
  (found.map dropAbsent, dom)

/-- Asks for the block of cells and puts it into the page, if there is one. -/
def createBlock (host : Host) (root : NodeId) (task : Task) (dom : Dom) (element : NodeId)
    (cells : Value) : Outcome BlockFault Creation :=
  let name := host.blockName task.rule.type
  let request : Request := ⟨name, task.rule.variants, cells, dom⟩
  let (block, dom) := host.createBlock dom name task.rule.variants cells
  match block with
  | .error fault => (.error fault, dom)
  | .ok none => (.ok ⟨request, none⟩, dom)
  | .ok (some block) =>
    match place? dom root element block task.rule.mode with
    | none => (.ok ⟨request, none⟩, dom)
    | some after =>
      (.ok ⟨request, some ⟨element, block, task.rule.mode, dom, after⟩⟩, after)

/-- Makes the block of an element, if there are cells for it. -/
def makeBlock (host : Host) (params : Params) (root : NodeId) (task : Task) (dom : Dom)
    (element : NodeId) : Outcome BlockFault (Option Creation) :=
  match findCells params task dom element with
  | (.error fault, dom) => (.error fault, dom)
  | (.ok cells, dom) =>
    if hasCells cells then
      let (creation, dom) := createBlock host root task dom element cells
      (creation.map some, dom)
    else (.ok none, dom)

/-- Makes the blocks of several elements. -/
def makeEach (host : Host) (params : Params) (root : NodeId) (task : Task) (dom : Dom) :
    List NodeId → Outcome BlockFault (List Creation)
  | [] => (.ok [], dom)
  | element :: elements =>
    match makeBlock host params root task dom element with
    | (.error fault, dom) => (.error fault, dom)
    | (.ok creation, dom) =>
      let (creations, dom) := makeEach host params root task dom elements
      (creations.map fun creations => creation.toList ++ creations, dom)

/-- Makes the blocks of all rules, in their order. -/
def makeBlocks (host : Host) (params : Params) (root : NodeId) (dom : Dom) :
    List Task → Outcome BlockFault (List Creation)
  | [] => (.ok [], dom)
  | task :: tasks =>
    match makeEach host params root task dom (candidates dom root task.rule.selectors) with
    | (.error fault, dom) => (.error fault, dom)
    | (.ok creations, dom) =>
      let (more, dom) := makeBlocks host params root dom tasks
      (more.map fun more => creations ++ more, dom)

/-- Imports a page with tasks for its blocks: the element with the content, and what came of asking
for blocks. -/
def runTasks (host : Host) (document : RuleDocument) (tasks : List Task) (params : Params)
    (dom : Dom) : Outcome BlockFault (NodeId × List Creation) :=
  let root := rootOf dom document.root
  let dom := removeEntries host dom root (document.cleanup.start ++ ignoredElements)
  match makeBlocks host params root dom tasks with
  | (.error fault, dom) => (.error fault, dom)
  | (.ok creations, dom) =>
    (.ok (root, creations), removeEntries host dom root document.cleanup.finish)

/-- Imports a page by a rule document. -/
def run (host : Host) (document : RuleDocument) (params : Params) (dom : Dom) :
    Outcome BlockFault (NodeId × List Creation) :=
  runTasks host document (document.blocks.map (Task.ofRule host)) params dom

end PageBlocks.Import
