import PageBlocks.Html.OpenElements
import PageBlocks.Html.Token
import PageBlocks.Html.WordList
/-!
# The state of tree construction

A `Builder` holds the page that is being built and everything that the rules for the next token
look at: the open elements, the formatting elements that are carried over into new blocks, the mode
and the flags.  This module has the operations that the rules are put together from: inserting
nodes, closing elements, reopening formatting elements and the repair of overlapping formatting.

Content that is misplaced in a table goes in front of the table while `fosterParenting` is set.
-/

namespace PageBlocks.Html

/-- The rules that are in force. -/
inductive Mode where
  | initial
  | beforeHtml
  | beforeHead
  | inHead
  | inHeadNoscript
  | afterHead
  | inBody
  | text
  | inTable
  | inTableText
  | inCaption
  | inColumnGroup
  | inTableBody
  | inRow
  | inCell
  | inSelect
  | inSelectInTable
  | afterBody
  | inFrameset
  | afterFrameset
  | afterAfterBody
  | afterAfterFrameset
deriving DecidableEq, Repr

/-- The state of tree construction. -/
structure Builder where
  dom : Dom
  /-- The open elements, the innermost one first. -/
  stack : List OpenElement
  /-- The formatting elements that are reopened in new blocks, the latest one first.  `none` is a
  marker that hides those before it. -/
  formatting : List (Option OpenElement)
  mode : Mode
  /-- The mode to go back to after the text of an element, or after text in a table. -/
  returnMode : Mode
  /-- The text collected in a table, the latest piece first. -/
  pendingText : List (List Char)
  head : Option OpenElement
  form : Option OpenElement
  framesetOk : Bool
  quirks : Bool
  fosterParenting : Bool
  /-- A line break that follows at once is dropped. -/
  dropsLineBreak : Bool
  content : Content
deriving Repr

namespace Builder

/-- The state before any token. -/
def initial : Builder :=
  { dom := .empty, stack := [], formatting := [], mode := .initial, returnMode := .initial,
    pendingText := [], head := none, form := none, framesetOk := true, quirks := false,
    fosterParenting := false, dropsLineBreak := false, content := .markup }

/-! ## The open elements -/

/-- The name of the innermost open element. -/
def currentName (b : Builder) : String :=
  (b.stack.head?.map (·.name)).getD ""

/-- The identity of the innermost open element, or of the document. -/
def currentId (b : Builder) : NodeId :=
  (b.stack.head?.map (·.id)).getD Dom.documentId

/-- Closes the innermost element. -/
def pop (b : Builder) : Builder :=
  { b with stack := b.stack.drop 1 }

/-- Is an element in scope? -/
def hasInScope (b : Builder) (name : String) (scope : Scope) : Bool :=
  inScope scope name b.stack

/-- Closes elements whose end is implied. -/
def closeImplied (b : Builder) (exceptName : String) : Builder :=
  { b with stack := Html.closeImplied exceptName b.stack }

/-- Closes elements through the first one with a name. -/
def closeThroughName (b : Builder) (name : String) : Builder :=
  { b with stack := closeThrough (·.name = name) b.stack }

/-- Closes elements up to the first one with one of the names. -/
def closeUntilNames (b : Builder) (names : List String) : Builder :=
  { b with stack := closeUntil names b.stack }

/-- Is the element still open? -/
def isOpen (b : Builder) (element : OpenElement) : Bool :=
  b.stack.any (·.id = element.id)

/-- Takes an element off the stack, wherever it is. -/
def removeOpen (b : Builder) (element : OpenElement) : Builder :=
  { b with stack := b.stack.filter (·.id ≠ element.id) }

/-- Goes over to other rules. -/
def enter (b : Builder) (mode : Mode) : Builder :=
  { b with mode := mode }

/-- Rules out a frameset later on. -/
def forbidFrameset (b : Builder) : Builder :=
  { b with framesetOk := false }

/-! ## Inserting nodes -/

/-- Where misplaced content of a table goes: the node it is put in front of, or the element at
whose end it is put. -/
def fosterPlace (b : Builder) : NodeId ⊕ NodeId :=
  match b.stack.find? (·.name = "table") with
  | some table =>
    if (b.dom.parent? table.id).isSome then .inl table.id
    else
      match (b.stack.dropWhile (·.id ≠ table.id)).drop 1 with
      | outer :: _ => .inr outer.id
      | [] => .inr b.currentId
  | none => .inr ((b.stack.getLast?.map (·.id)).getD Dom.documentId)

/-- Is new content to be moved in front of the table? -/
def isMisplaced (b : Builder) : Bool :=
  b.fosterParenting && tableLevelNames.contains b.currentName

/-- Puts a new node at a place. -/
def placeNode (b : Builder) (place : NodeId ⊕ NodeId) (node : NodeId) : Builder :=
  match place with
  | .inl next => { b with dom := b.dom.insertBefore next node }
  | .inr parent => { b with dom := b.dom.append parent node }

/-- Starts an element: puts it into the page and leaves it open. -/
def insert (b : Builder) (name : String) (attributes : List (String × String))
    (vocabulary : Vocabulary) : Builder :=
  let (id, dom) := b.dom.createElement ⟨name, vocabulary, keptAttributes name attributes⟩
  let place := if b.isMisplaced then b.fosterPlace else .inr b.currentId
  let placed := { b with dom := dom }.placeNode place id
  { placed with stack := ⟨id, name, vocabulary⟩ :: b.stack }

/-- Starts an element of ordinary markup. -/
def insertHtml (b : Builder) (name : String) (attributes : List (String × String)) : Builder :=
  b.insert name attributes .html

/-- Inserts an element without content. -/
def insertVoid (b : Builder) (name : String) (attributes : List (String × String)) : Builder :=
  (b.insertHtml name attributes).pop

/-- The text at the end of a list of nodes, when the last of them is plain text. -/
def lastText? (nodes : List Node) : Option (NodeId × String) :=
  match nodes.getLast? with
  | some (.leaf id (.text .plain content)) => some (id, content)
  | _ => none

/-- Puts text at a place, where it joins plain text just before it. -/
def placeText (b : Builder) (place : NodeId ⊕ NodeId) (content : String) : Builder :=
  let before : List Node :=
    match place with
    | .inr parent => (b.dom.children parent).toList
    | .inl next =>
      match b.dom.parent? next with
      | some parent => (b.dom.children parent).toList.takeWhile (·.id ≠ next)
      | none => []
  match lastText? before with
  | some (id, earlier) =>
    { b with dom := b.dom.replaceLeaf id (.text .plain (earlier ++ content)) }
  | none =>
    let (id, dom) := b.dom.createLeaf (.text .plain content)
    { b with dom := dom }.placeNode place id

/-- Inserts text. -/
def insertText (b : Builder) (content : List Char) : Builder :=
  if content.isEmpty then b
  else b.placeText (if b.isMisplaced then b.fosterPlace else .inr b.currentId)
    (String.ofList content)

/-- Inserts a comment at the end of an element. -/
def insertComment (b : Builder) (parent : NodeId) (content : String) : Builder :=
  let (id, dom) := b.dom.createLeaf (.comment content)
  { b with dom := dom.append parent id }

/-- Adds those attributes to an element that it has not got. -/
def addAttributes (b : Builder) (element : OpenElement) (attributes : List (String × String)) :
    Builder :=
  let add (tag : Tag) (entry : String × String) :=
    if (tag.attribute? entry.1).isSome then tag
    else tag.setAttribute entry.1 (keptValue tag.name entry.1 entry.2)
  { b with dom := { b.dom with roots := b.dom.roots.modify element.id fun tag children =>
      (attributes.foldl add tag, children) } }

/-- Starts an element whose content is text. -/
def insertTextElement (b : Builder) (name : String) (attributes : List (String × String))
    (content : Content) : Builder :=
  { b.insertHtml name attributes with returnMode := b.mode, mode := .text, content := content }

/-! ## Formatting elements -/

/-- The formatting elements after the last marker, the latest one first. -/
def openFormatting (b : Builder) : List OpenElement :=
  (b.formatting.takeWhile (·.isSome)).filterMap id

/-- The latest formatting element with a name. -/
def formattingElement? (b : Builder) (name : String) : Option OpenElement :=
  b.openFormatting.find? (·.name = name)

/-- Forgets a formatting element. -/
def removeFormatting (b : Builder) (element : OpenElement) : Builder :=
  { b with formatting := b.formatting.filter fun entry =>
      entry.all fun other => other.id ≠ element.id }

/-- Starts a formatting element. -/
def insertFormatting (b : Builder) (name : String) (attributes : List (String × String)) :
    Builder :=
  let started := b.insertHtml name attributes
  { started with formatting := started.stack.head? :: started.formatting }

/-- Hides all formatting elements so far. -/
def pushMarker (b : Builder) : Builder :=
  { b with formatting := none :: b.formatting }

/-- Forgets the formatting elements through the last marker. -/
def clearToMarker (b : Builder) : Builder :=
  { b with formatting := (b.formatting.dropWhile (·.isSome)).drop 1 }

/-- A copy of an element, without its children, that is in the page nowhere. -/
def copyElement (b : Builder) (element : OpenElement) : OpenElement × Builder :=
  let attributes := ((b.dom.tag? element.id).map (·.attributes)).getD []
  let (id, dom) := b.dom.createElement ⟨element.name, element.vocabulary, attributes⟩
  (⟨id, element.name, element.vocabulary⟩, { b with dom := dom })

/-- Replaces a formatting element in the list. -/
def replaceFormatting (b : Builder) (old new : OpenElement) : Builder :=
  { b with formatting := b.formatting.map fun entry =>
      if entry.any (·.id = old.id) then some new else entry }

/-- Reopens a formatting element: a copy is started and takes its place in the list. -/
def reopen (b : Builder) (element : OpenElement) : Builder :=
  let attributes := ((b.dom.tag? element.id).map (·.attributes)).getD []
  let started := b.insert element.name attributes element.vocabulary
  match started.stack.head? with
  | some copy => started.replaceFormatting element copy
  | none => started

/-- Reopens the formatting elements that were closed by the end of a block. -/
def reopenFormatting (b : Builder) : Builder :=
  (b.openFormatting.takeWhile (!b.isOpen ·)).reverse.foldl reopen b

/-! ## Overlapping formatting -/

/-- The position of an element in the list of formatting elements, counted from the earliest. -/
def formattingIndex? (b : Builder) (element : OpenElement) : Option Nat :=
  b.formatting.reverse.findIdx? fun entry => entry.any (·.id = element.id)

/-- Puts a formatting element at a position of the list, counted from the earliest. -/
def insertFormattingAt (b : Builder) (position : Nat) (element : OpenElement) : Builder :=
  let entries := b.formatting.reverse
  { b with formatting :=
      (entries.take position ++ some element :: entries.drop position).reverse }

/-- Replaces an open element. -/
def replaceOpen (b : Builder) (old new : OpenElement) : Builder :=
  { b with stack := b.stack.map fun element => if element.id = old.id then new else element }

/-- Wraps the moving part of an overlap into copies of the elements between the formatting element
and the block.  `between` holds those elements, the innermost one first; at most three are looked
at.  Yields the outermost node of the moving part and the position for the copy of the formatting
element. -/
def wrapBetween (furthest : OpenElement) :
    (rounds : Nat) → (between : List OpenElement) → (last : OpenElement) → (bookmark : Nat) →
    Builder → OpenElement × Nat × Builder
  | 0, _, last, bookmark, b => (last, bookmark, b)
  | _, [], last, bookmark, b => (last, bookmark, b)
  | rounds + 1, element :: between, last, bookmark, b =>
    match b.formattingIndex? element with
    | none => wrapBetween furthest rounds between last bookmark (b.removeOpen element)
    | some index =>
      let bookmark := if last.id = furthest.id then index + 1 else bookmark
      let (copy, b) := b.copyElement element
      let b := (b.replaceFormatting element copy).replaceOpen element copy
      let b := { b with dom := b.dom.append copy.id last.id }
      wrapBetween furthest rounds between copy bookmark b

/-- Moves a node to where misplaced content of a table goes. -/
def moveToFosterPlace (b : Builder) (node : NodeId) : Builder :=
  b.placeNode b.fosterPlace node

/-- Ends a formatting element inside a block that started in it: the block moves out, and its
content is wrapped into a copy of the formatting element. -/
def splitFormatting (b : Builder) (element furthest : OpenElement) : Builder :=
  let inner := b.stack.takeWhile (·.id ≠ furthest.id)
  let between := ((b.stack.dropWhile (·.id ≠ furthest.id)).drop 1).takeWhile (·.id ≠ element.id)
  let outer := (b.stack.dropWhile (·.id ≠ element.id)).drop 1
  let ancestor := outer.head?.getD element
  let bookmark := (b.formattingIndex? element).getD 0
  let (last, bookmark, b) := wrapBetween furthest 3 between furthest bookmark b
  let b :=
    if tableLevelNames.contains ancestor.name then b.moveToFosterPlace last.id
    else { b with dom := b.dom.append ancestor.id last.id }
  let (copy, b) := b.copyElement element
  let b := { b with dom := (b.dom.appendChildren copy.id furthest.id).append furthest.id copy.id }
  let b := (b.removeFormatting element).insertFormattingAt bookmark copy
  let b := b.removeOpen element
  let rest := (b.stack.drop inner.length)
  { b with stack := inner ++ copy :: rest }

/-- The outermost special element inside a formatting element. -/
def furthestBlock? (b : Builder) (element : OpenElement) : Option OpenElement :=
  ((b.stack.takeWhile (·.id ≠ element.id)).filter (·.isSpecial)).getLast?

/-- Ends an element that no rule of its own covers, unless a special element is met first. -/
def endOther (b : Builder) (name : String) : Builder :=
  match b.stack.find? fun element => element.name = name || element.isSpecial with
  | some element =>
    if element.name = name then
      let closed := b.closeImplied name
      { closed with stack := closeThrough (·.id = element.id) closed.stack }
    else b
  | none => b

/-- Ends a formatting element, as often as the number of rounds allows. -/
def endFormatting : (rounds : Nat) → (name : String) → Builder → Builder
  | 0, _, b => b
  | rounds + 1, name, b =>
    match b.formattingElement? name with
    | none => b.endOther name
    | some element =>
      if !b.isOpen element then b.removeFormatting element
      else if !b.hasInScope element.name .default then b.endOther name
      else match b.furthestBlock? element with
        | none =>
          { b with stack := closeThrough (·.id = element.id) b.stack }.removeFormatting element
        | some furthest => endFormatting rounds name (b.splitFormatting element furthest)

end Builder

end PageBlocks.Html
