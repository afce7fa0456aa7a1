import PageBlocks.Dom.Forest
/-!
# Editing a page

A `Dom` holds a page that is being changed: the document and, beside it, every subtree that has
been taken out of it or not been put into it yet.  All of them are top-level nodes of one forest
whose first node is the document, so that moving a node is taking it out of the forest and putting
it in at another place.

A node cannot be moved to a place inside itself.  Such a move changes nothing but that the page
is marked, since it would have left the page with a loop.

## Main results

* `Forest.ids_renumber` — new identities are counted without a gap.
* `Dom.take_eq_none_iff` — only nodes of the page can be taken out.
* `Dom.append_of_missing` — appending a node that is not there changes nothing.
-/

namespace PageBlocks

namespace Forest

/-- The element whose list of children holds a node. -/
def parentOf? (target : NodeId) : Forest → Option NodeId
  | nil => none
  | leaf _ _ next => next.parentOf? target
  | element id _ children next =>
    if children.toList.any (·.id == target) then some id
    else (children.parentOf? target).or (next.parentOf? target)

/-- The same forest with new identities, counted from `next` on, each before those below it, and
the least identity after them. -/
def renumber (next : NodeId) : Forest → Forest × NodeId
  | nil => (nil, next)
  | leaf _ content rest =>
    let (rest, after) := rest.renumber (next + 1)
    (leaf next content rest, after)
  | element _ tag children rest =>
    let (children, middle) := children.renumber (next + 1)
    let (rest, after) := rest.renumber middle
    (element next tag children rest, after)

theorem renumber_snd (next : NodeId) (forest : Forest) :
    (forest.renumber next).2 = next + forest.ids.length := by
  induction forest generalizing next with
  | nil => rfl
  | leaf id content rest ih =>
    rw [renumber, ids, List.length_cons, ih, Nat.add_right_comm, Nat.add_assoc]
  | element id tag children rest ihc ihr =>
    simp only [renumber, ids, List.length_cons, List.length_append, ihc, ihr]
    rw [Nat.add_right_comm next, Nat.add_right_comm, Nat.add_assoc, Nat.add_assoc, Nat.add_assoc]

theorem ids_renumber (next : NodeId) (forest : Forest) :
    (forest.renumber next).1.ids = List.range' next forest.ids.length := by
  induction forest generalizing next with
  | nil => rfl
  | leaf id content rest ih =>
    simp only [renumber, ids, List.length_cons, List.range'_succ, ih]
  | element id tag children rest ihc ihr =>
    simp only [renumber, ids, List.length_cons, List.length_append, List.range'_succ, ihc, ihr,
      renumber_snd]
    rw [← List.range'_append_1]

end Forest

/-- A page together with the subtrees beside it, and the least identity not in use. -/
structure Dom where
  roots : Forest
  fresh : NodeId
  /-- Was a node ever to be moved to a place inside itself? -/
  looped : Bool
deriving DecidableEq, Repr

namespace Dom

/-- The identity of the document. -/
def documentId : NodeId := 0

/-- The start of a document. -/
def documentTag : Tag := ⟨documentName, .unspecified, []⟩

/-- A page without any content. -/
def empty : Dom :=
  ⟨.element documentId documentTag .nil .nil, 1, false⟩

/-- The node with an identity, wherever it is. -/
def find? (dom : Dom) (id : NodeId) : Option Node :=
  dom.roots.find? id

/-- The document, with all that is in it. -/
def document (dom : Dom) : Node :=
  (dom.find? documentId).getD (.element documentId documentTag .nil)

/-- The start of an element. -/
def tag? (dom : Dom) (id : NodeId) : Option Tag :=
  (dom.find? id).bind Node.tag?

/-- The name of an element; nothing for other nodes. -/
def name (dom : Dom) (id : NodeId) : String :=
  ((dom.find? id).map Node.name).getD ""

/-- The nodes directly below a node. -/
def children (dom : Dom) (id : NodeId) : Forest :=
  ((dom.find? id).map Node.children).getD .nil

/-- The element directly above a node. -/
def parent? (dom : Dom) (id : NodeId) : Option NodeId :=
  dom.roots.parentOf? id

/-- Is the node in the document itself, and not in a subtree beside it? -/
def isAttached (dom : Dom) (id : NodeId) : Bool :=
  dom.document.ids.contains id

/-! ## New nodes -/

/-- A new element beside the document. -/
def createElement (dom : Dom) (tag : Tag) : NodeId × Dom :=
  (dom.fresh, { dom with
    roots := dom.roots ++ .element dom.fresh tag .nil .nil, fresh := dom.fresh + 1 })

/-- A new leaf beside the document. -/
def createLeaf (dom : Dom) (content : Leaf) : NodeId × Dom :=
  (dom.fresh, { dom with
    roots := dom.roots ++ .leaf dom.fresh content .nil, fresh := dom.fresh + 1 })

/-- Copies a subtree of another page, with new identities, beside the document. -/
def adopt (dom : Dom) (node : Node) : NodeId × Dom :=
  let (copy, after) := node.toForest.renumber dom.fresh
  (dom.fresh, { dom with roots := dom.roots ++ copy, fresh := after })

/-- The document alone, with its nodes numbered in document order. -/
def numbered (dom : Dom) : Dom :=
  let (children, after) := dom.document.children.renumber (documentId + 1)
  ⟨.element documentId documentTag children .nil, after, false⟩

/-! ## Moves -/

/-- Takes a node out of the page altogether. -/
def take (dom : Dom) (id : NodeId) : Option (Node × Dom) :=
  (dom.find? id).map fun node => (node, { dom with roots := dom.roots.erase id })

theorem take_eq_none_iff {dom : Dom} {id : NodeId} :
    dom.take id = none ↔ dom.find? id = none := by
  simp [take]

/-- Takes a node out of the element that holds it and keeps it beside the document. -/
def detach (dom : Dom) (id : NodeId) : Dom :=
  match dom.parent? id, dom.take id with
  | some _, some (node, rest) => { rest with roots := rest.roots ++ node.toForest }
  | _, _ => dom

/-- Moves a node: takes it out and puts it back by a change of the forest that is left.  The page
is only marked when the place, given by a node there, lies inside the moved node. -/
def move (dom : Dom) (id place : NodeId) (put : Node → Forest → Forest) : Dom :=
  match dom.take id with
  | none => dom
  | some (node, rest) =>
    if (rest.find? place).isSome then { rest with roots := put node rest.roots }
    else { dom with looped := true }

/-- Moves a node to the end of an element's children. -/
def append (dom : Dom) (parent child : NodeId) : Dom :=
  if (dom.tag? parent).isSome then
    dom.move child parent fun node =>
      Forest.modify parent fun tag children => (tag, children ++ node.toForest)
  else dom

theorem append_of_missing {dom : Dom} {parent child : NodeId} (h : dom.find? child = none) :
    dom.append parent child = dom := by
  simp [append, move, take_eq_none_iff.2 h]

/-- Moves a node to the start of an element's children. -/
def prepend (dom : Dom) (parent child : NodeId) : Dom :=
  if (dom.tag? parent).isSome then
    dom.move child parent fun node =>
      Forest.modify parent fun tag children => (tag, node.toForest ++ children)
  else dom

/-- Moves a node in front of another one. -/
def insertBefore (dom : Dom) (sibling child : NodeId) : Dom :=
  if (dom.parent? sibling).isSome then
    dom.move child sibling fun node =>
      Forest.substitute sibling fun next => node.toForest ++ next.toForest
  else dom

/-- Moves a node to the place of another one, which is then kept beside the document. -/
def replaceWith (dom : Dom) (old new : NodeId) : Dom :=
  if old = new then dom else (dom.insertBefore old new).detach old

/-- Moves all children of an element to the end of another element's children. -/
def appendChildren (dom : Dom) (target source : NodeId) : Dom :=
  (dom.children source).toList.foldl (fun dom child => dom.append target child.id) dom

/-! ## Changes in place -/

/-- Sets an attribute of an element. -/
def setAttribute (dom : Dom) (id : NodeId) (name value : String) : Dom :=
  { dom with roots := dom.roots.modify id fun tag children =>
      (tag.setAttribute name value, children) }

/-- Changes what a leaf holds. -/
def replaceLeaf (dom : Dom) (id : NodeId) (content : Leaf) : Dom :=
  { dom with roots := dom.roots.substitute id fun _ => Forest.leaf id content .nil }

/-- Adds text at the end of an element's children as a node of its own. -/
def appendText (dom : Dom) (parent : NodeId) (content : String) : Dom :=
  let (id, dom) := dom.createLeaf (.text .plain content)
  dom.append parent id

end Dom

end PageBlocks
