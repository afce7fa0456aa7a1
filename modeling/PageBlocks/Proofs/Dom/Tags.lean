import PageBlocks.Dom.Edit
/-!
# Conditions on the tags of a page

A condition that the tag of every element of a page meets is kept by all that is done to the page,
as long as new elements meet it.  Moving nodes makes no tags, and neither does taking them out.
The page need not be well formed for this.

## Main results

* `Forest.Every.substitute` — what is put in the place of a node must meet the condition.
* `Forest.Every.find?` — what is found meets the condition with all that is in it.
* `Forest.every_renumber_iff` — new identities change no tags.
* `Dom.EveryTag.append`, `Dom.EveryTag.insertBefore`, `Dom.EveryTag.detach` — moves keep the
  condition.
* `Dom.EveryTag.tag?` — the condition holds of each tag that is looked up.
-/

namespace PageBlocks

variable {p : Tag → Prop}

namespace Forest

/-- The tags of all elements meet a condition. -/
def Every (p : Tag → Prop) : Forest → Prop
  | nil => True
  | leaf _ _ next => next.Every p
  | element _ tag children next => p tag ∧ children.Every p ∧ next.Every p

@[simp] theorem every_nil : Every p nil := trivial

@[simp] theorem every_leaf {id : NodeId} {content : Leaf} {next : Forest} :
    (leaf id content next).Every p ↔ next.Every p := Iff.rfl

@[simp] theorem every_element {id : NodeId} {tag : Tag} {children next : Forest} :
    (element id tag children next).Every p ↔ p tag ∧ children.Every p ∧ next.Every p := Iff.rfl

@[simp] theorem every_append {first second : Forest} :
    (first ++ second).Every p ↔ first.Every p ∧ second.Every p := by
  induction first with
  | nil => simp
  | leaf id content next ih => simpa using ih
  | element id tag children next _ ih => simp [ih, and_assoc]

@[simp] theorem every_consTo {node : Node} {rest : Forest} :
    (node.consTo rest).Every p ↔ node.toForest.Every p ∧ rest.Every p := by
  cases node <;> simp [Node.toForest, Node.consTo, and_assoc]

theorem every_ofList {nodes : List Node} :
    (ofList nodes).Every p ↔ ∀ node ∈ nodes, node.toForest.Every p := by
  induction nodes with
  | nil => simp [ofList]
  | cons node rest ih => simp [ofList, ih]

theorem ofList_toList (forest : Forest) : ofList forest.toList = forest := by
  induction forest with
  | nil => rfl
  | leaf id content next ih => simp [toList, ofList, Node.consTo, ih]
  | element id tag children next _ ih => simp [toList, ofList, Node.consTo, ih]

/-- The top-level nodes meet the condition with all that is in them. -/
theorem Every.of_mem_toList {forest : Forest} (h : forest.Every p) {node : Node}
    (hnode : node ∈ forest.toList) : node.toForest.Every p := by
  rw [← ofList_toList forest] at h
  exact every_ofList.1 h node hnode

theorem Every.children {node : Node} (h : node.toForest.Every p) : node.children.Every p := by
  cases node with
  | leaf id content => trivial
  | element id tag children => exact h.2.1

/-- What is found meets the condition with all that is in it. -/
theorem Every.find? {forest : Forest} (h : forest.Every p) {target : NodeId} {node : Node}
    (hfind : forest.find? target = some node) : node.toForest.Every p := by
  induction forest with
  | nil => simp [Forest.find?] at hfind
  | leaf id content next ih =>
    unfold Forest.find? at hfind
    split at hfind
    · cases hfind
      trivial
    · exact ih h hfind
  | element id tag children next ihc ihn =>
    obtain ⟨htag, hchildren, hnext⟩ := h
    unfold Forest.find? at hfind
    split at hfind
    · cases hfind
      exact ⟨htag, hchildren, trivial⟩
    · rcases Option.or_eq_some_iff.1 hfind with hfind | ⟨_, hfind⟩
      · exact ihc hchildren hfind
      · exact ihn hnext hfind

/-- What is put in the place of a node must meet the condition where the node does. -/
theorem Every.substitute {forest : Forest} (h : forest.Every p) {target : NodeId}
    {replace : Node → Forest}
    (hreplace : ∀ node : Node, node.toForest.Every p → (replace node).Every p) :
    (forest.substitute target replace).Every p := by
  induction forest with
  | nil => trivial
  | leaf id content next ih =>
    unfold Forest.substitute
    split
    · exact every_append.2 ⟨hreplace _ trivial, h⟩
    · exact ih h
  | element id tag children next ihc ihn =>
    obtain ⟨htag, hchildren, hnext⟩ := h
    unfold Forest.substitute
    split
    · exact every_append.2 ⟨hreplace _ ⟨htag, hchildren, trivial⟩, hnext⟩
    · exact ⟨htag, ihc hchildren, ihn hnext⟩

theorem Every.erase {forest : Forest} (h : forest.Every p) (target : NodeId) :
    (forest.erase target).Every p :=
  h.substitute fun _ _ => trivial

/-- A change of an element must keep the condition on its tag and on its children. -/
theorem Every.modify {forest : Forest} (h : forest.Every p) {target : NodeId}
    {change : Tag → Forest → Tag × Forest}
    (hchange : ∀ tag children, p tag → children.Every p →
      p (change tag children).1 ∧ (change tag children).2.Every p) :
    (forest.modify target change).Every p := by
  apply h.substitute
  intro node hnode
  cases node with
  | leaf id content => trivial
  | element id tag children =>
    have hnew := hchange tag children hnode.1 hnode.2.1
    exact ⟨hnew.1, hnew.2, trivial⟩

/-- New identities change no tags. -/
theorem every_renumber_iff {next : NodeId} {forest : Forest} :
    (forest.renumber next).1.Every p ↔ forest.Every p := by
  induction forest generalizing next with
  | nil => exact Iff.rfl
  | leaf id content rest ih => exact ih
  | element id tag children rest ihc ihr => exact and_congr Iff.rfl (and_congr ihc ihr)

end Forest

namespace Dom

variable {dom : Dom}

/-- The tags of all elements of a page meet a condition, also beside the document. -/
structure EveryTag (p : Tag → Prop) (dom : Dom) : Prop where
  roots : dom.roots.Every p

namespace EveryTag

theorem find? (h : dom.EveryTag p) {id : NodeId} {node : Node} (hfind : dom.find? id = some node) :
    node.toForest.Every p :=
  h.roots.find? hfind

theorem tag? (h : dom.EveryTag p) {id : NodeId} {tag : Tag} (htag : dom.tag? id = some tag) :
    p tag := by
  obtain ⟨node, hfind, hnode⟩ := Option.bind_eq_some_iff.1 htag
  have hevery := h.find? hfind
  cases node with
  | leaf id content => cases hnode
  | element id own children =>
    cases hnode
    exact hevery.1

theorem children (h : dom.EveryTag p) (id : NodeId) : (dom.children id).Every p := by
  unfold Dom.children
  cases hfind : dom.find? id with
  | none => trivial
  | some node => exact (h.find? hfind).children

/-! ## New nodes -/

theorem createElement (h : dom.EveryTag p) {tag : Tag} (htag : p tag) :
    (dom.createElement tag).2.EveryTag p :=
  ⟨Forest.every_append.2 ⟨h.roots, htag, trivial, trivial⟩⟩

theorem createLeaf (h : dom.EveryTag p) (content : Leaf) :
    (dom.createLeaf content).2.EveryTag p :=
  ⟨Forest.every_append.2 ⟨h.roots, trivial⟩⟩

theorem replaceLeaf (h : dom.EveryTag p) (id : NodeId) (content : Leaf) :
    (dom.replaceLeaf id content).EveryTag p :=
  ⟨h.roots.substitute fun _ _ => trivial⟩

theorem modify (h : dom.EveryTag p) (target : NodeId) {change : Tag → Forest → Tag × Forest}
    (hchange : ∀ tag children, p tag → children.Every p →
      p (change tag children).1 ∧ (change tag children).2.Every p) :
    EveryTag p { dom with roots := dom.roots.modify target change } :=
  ⟨h.roots.modify hchange⟩

/-! ## Moves -/

theorem take (h : dom.EveryTag p) {id : NodeId} {node : Node} {rest : Dom}
    (htake : dom.take id = some (node, rest)) : node.toForest.Every p ∧ rest.EveryTag p := by
  obtain ⟨found, hfind, heq⟩ := Option.map_eq_some_iff.1 htake
  cases heq
  exact ⟨h.find? hfind, ⟨h.roots.erase id⟩⟩

theorem move (h : dom.EveryTag p) {id place : NodeId} {put : Node → Forest → Forest}
    (hput : ∀ (node : Node) (forest : Forest), node.toForest.Every p → forest.Every p →
      (put node forest).Every p) :
    (dom.move id place put).EveryTag p := by
  unfold Dom.move
  split
  · exact h
  · next node rest htake =>
    have hparts := h.take htake
    split
    · exact ⟨hput node _ hparts.1 hparts.2.roots⟩
    · exact ⟨h.roots⟩

theorem append (h : dom.EveryTag p) (parent child : NodeId) :
    (dom.append parent child).EveryTag p := by
  unfold Dom.append
  split
  · apply h.move
    intro node forest hnode hforest
    exact hforest.modify fun tag children htag hchildren =>
      ⟨htag, Forest.every_append.2 ⟨hchildren, hnode⟩⟩
  · exact h

theorem insertBefore (h : dom.EveryTag p) (sibling child : NodeId) :
    (dom.insertBefore sibling child).EveryTag p := by
  unfold Dom.insertBefore
  split
  · apply h.move
    intro node forest hnode hforest
    exact hforest.substitute fun next hnext => Forest.every_append.2 ⟨hnode, hnext⟩
  · exact h

theorem detach (h : dom.EveryTag p) (id : NodeId) : (dom.detach id).EveryTag p := by
  unfold Dom.detach
  split
  · next node rest _ htake =>
    have hparts := h.take htake
    exact ⟨Forest.every_append.2 ⟨hparts.2.roots, hparts.1⟩⟩
  · exact h

theorem appendChildren (h : dom.EveryTag p) (target source : NodeId) :
    (dom.appendChildren target source).EveryTag p := by
  unfold Dom.appendChildren
  generalize (dom.children source).toList = nodes
  induction nodes generalizing dom with
  | nil => exact h
  | cons node rest ih => exact ih (h.append target node.id)

/-! ## The document -/

theorem document (h : dom.EveryTag p) (hdocument : p documentTag) :
    dom.document.toForest.Every p := by
  unfold Dom.document
  cases hfind : dom.find? documentId with
  | none => exact ⟨hdocument, trivial, trivial⟩
  | some node => exact h.find? hfind

theorem numbered (h : dom.EveryTag p) (hdocument : p documentTag) : dom.numbered.EveryTag p where
  roots := ⟨hdocument, Forest.every_renumber_iff.2 (h.document hdocument).children, trivial⟩

end EveryTag

end Dom

end PageBlocks
