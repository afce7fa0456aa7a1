/-!
# Forests of page nodes

A page is an ordered forest whose nodes carry identities, so that an element that is found now can
be moved later.  A `Forest` is given by its first node and the nodes after it; one structural
recursion therefore reaches both the children of a node and its later siblings.

## Main results

* `Forest.ids_append` — the identities of two forests in a row.
* `Forest.substitute_of_notMem` — substituting for a node that is not there changes nothing.
* `Forest.substitute_self` — putting each node back where it was changes nothing.
-/

namespace PageBlocks

/-- The identity of a node. -/
abbrev NodeId := Nat

/-! ## Nodes -/

/-- What a piece of text was written in.  Only `plain` text is read by the elements around it; the
others are read by the element that holds them directly. -/
inductive TextKind where
  | plain
  | script
  | stylesheet
  | template
  | rubyText
  | rubyParenthesis
deriving DecidableEq, Repr

/-- A node without children. -/
inductive Leaf where
  | text (kind : TextKind) (content : String)
  | comment (content : String)
  | cdata (content : String)
  | doctype (content : String)
  | declaration (content : String)
  | instruction (content : String)
deriving DecidableEq, Repr

/-- The vocabulary that an element belongs to. -/
inductive Vocabulary where
  | unspecified
  | html
  | svg
  | mathml
deriving DecidableEq, Repr

/-- The start of an element: its name, vocabulary and attributes in the order written. -/
structure Tag where
  name : String
  vocabulary : Vocabulary
  attributes : List (String × String)
deriving DecidableEq, Repr

/-- The name of the element that stands for a document as a whole. -/
def documentName : String := "[document]"

namespace Tag

/-- The value of an attribute. -/
def attribute? (tag : Tag) (name : String) : Option String :=
  tag.attributes.lookup name

/-- Sets an attribute, in place when it is there and at the end when it is new. -/
def setAttribute (tag : Tag) (name value : String) : Tag :=
  if tag.attributes.any (·.1 == name) then
    { tag with attributes :=
        tag.attributes.map fun entry => if entry.1 == name then (name, value) else entry }
  else { tag with attributes := tag.attributes ++ [(name, value)] }

/-- Does the tag stand for a whole document? -/
def isDocument (tag : Tag) : Bool :=
  tag.name == documentName

end Tag

/-- An ordered forest: nothing, or a first node and the forest of its later siblings. -/
inductive Forest where
  | nil
  | leaf (id : NodeId) (content : Leaf) (next : Forest)
  | element (id : NodeId) (tag : Tag) (children next : Forest)
deriving DecidableEq, Repr

/-- A single node with everything below it. -/
inductive Node where
  | leaf (id : NodeId) (content : Leaf)
  | element (id : NodeId) (tag : Tag) (children : Forest)
deriving DecidableEq, Repr

namespace Node

/-- The identity of a node. -/
def id : Node → NodeId
  | leaf id _ => id
  | element id _ _ => id

/-- The start of an element. -/
def tag? : Node → Option Tag
  | leaf .. => none
  | element _ tag _ => some tag

/-- The name of an element, and nothing for a leaf. -/
def name : Node → String
  | leaf .. => ""
  | element _ tag _ => tag.name

/-- The nodes directly below. -/
def children : Node → Forest
  | leaf .. => .nil
  | element _ _ children => children

/-- Is the node an element? -/
def isElement : Node → Bool
  | leaf .. => false
  | element .. => true

/-- The node in front of a forest. -/
def consTo : Node → Forest → Forest
  | leaf id content, rest => .leaf id content rest
  | element id tag children, rest => .element id tag children rest

/-- The forest of one node. -/
def toForest (node : Node) : Forest :=
  node.consTo .nil

end Node

/-! ## Forests as lists -/

namespace Forest

/-- The top-level nodes. -/
def toList : Forest → List Node
  | nil => []
  | leaf id content next => .leaf id content :: next.toList
  | element id tag children next => .element id tag children :: next.toList

/-- A forest with the given top-level nodes. -/
def ofList : List Node → Forest
  | [] => nil
  | node :: rest => node.consTo (ofList rest)

@[simp] theorem toList_consTo (node : Node) (rest : Forest) :
    (node.consTo rest).toList = node :: rest.toList := by
  cases node <;> rfl

@[simp] theorem toList_ofList (nodes : List Node) : (ofList nodes).toList = nodes := by
  induction nodes with
  | nil => rfl
  | cons node rest ih => simp [ofList, ih]

/-- One forest after another. -/
def append : Forest → Forest → Forest
  | nil, after => after
  | leaf id content next, after => leaf id content (next.append after)
  | element id tag children next, after => element id tag children (next.append after)

instance : Append Forest := ⟨append⟩

@[simp] theorem nil_append (after : Forest) : nil ++ after = after := rfl

@[simp] theorem leaf_append (id : NodeId) (content : Leaf) (next after : Forest) :
    leaf id content next ++ after = leaf id content (next ++ after) := rfl

@[simp] theorem element_append (id : NodeId) (tag : Tag) (children next after : Forest) :
    element id tag children next ++ after = element id tag children (next ++ after) := rfl

@[simp] theorem append_nil (forest : Forest) : forest ++ nil = forest := by
  induction forest with
  | nil => rfl
  | leaf id content next ih => simp [ih]
  | element id tag children next _ ih => simp [ih]

theorem append_assoc (first second third : Forest) :
    first ++ second ++ third = first ++ (second ++ third) := by
  induction first with
  | nil => rfl
  | leaf id content next ih => simp [ih]
  | element id tag children next _ ih => simp [ih]

@[simp] theorem toList_append (first second : Forest) :
    (first ++ second).toList = first.toList ++ second.toList := by
  induction first with
  | nil => rfl
  | leaf id content next ih => simp [toList, ih]
  | element id tag children next _ ih => simp [toList, ih]

/-! ## Identities -/

/-- The identities of all nodes, each before those below it. -/
def ids : Forest → List NodeId
  | nil => []
  | leaf id _ next => id :: next.ids
  | element id _ children next => id :: (children.ids ++ next.ids)

@[simp] theorem ids_append (first second : Forest) :
    (first ++ second).ids = first.ids ++ second.ids := by
  induction first with
  | nil => rfl
  | leaf id content next ih => simp [ids, ih]
  | element id tag children next _ ih => simp [ids, ih]

/-- The first node with an identity. -/
def find? (target : NodeId) : Forest → Option Node
  | nil => none
  | leaf id content next =>
    if id = target then some (.leaf id content) else next.find? target
  | element id tag children next =>
    if id = target then some (.element id tag children)
    else (children.find? target).or (next.find? target)

/-- All nodes, each before those below it. -/
def nodes : Forest → List Node
  | nil => []
  | leaf id content next => .leaf id content :: next.nodes
  | element id tag children next =>
    .element id tag children :: (children.nodes ++ next.nodes)

/-! ## Changes -/

/-- Puts a forest in the place of the node with an identity. -/
def substitute (target : NodeId) (replace : Node → Forest) : Forest → Forest
  | nil => nil
  | leaf id content next =>
    if id = target then replace (.leaf id content) ++ next
    else leaf id content (next.substitute target replace)
  | element id tag children next =>
    if id = target then replace (.element id tag children) ++ next
    else element id tag (children.substitute target replace) (next.substitute target replace)

/-- Takes a node out, with everything below it. -/
def erase (forest : Forest) (target : NodeId) : Forest :=
  forest.substitute target fun _ => nil

/-- Changes the start and the children of an element. -/
def modify (target : NodeId) (change : Tag → Forest → Tag × Forest) (forest : Forest) : Forest :=
  forest.substitute target fun node =>
    match node with
    | .leaf id content => leaf id content nil
    | .element id tag children =>
      let (tag, children) := change tag children
      element id tag children nil

theorem substitute_self (target : NodeId) (forest : Forest) :
    forest.substitute target Node.toForest = forest := by
  induction forest with
  | nil => rfl
  | leaf id content next ih =>
    by_cases h : id = target <;> simp [substitute, Node.toForest, Node.consTo, h, ih]
  | element id tag children next ihc ihn =>
    by_cases h : id = target <;> simp [substitute, Node.toForest, Node.consTo, h, ihc, ihn]

theorem substitute_of_notMem {target : NodeId} {replace : Node → Forest} {forest : Forest}
    (h : target ∉ forest.ids) : forest.substitute target replace = forest := by
  induction forest with
  | nil => rfl
  | leaf id content next ih =>
    simp only [ids, List.mem_cons, not_or] at h
    simp [substitute, Ne.symm h.1, ih h.2]
  | element id tag children next ihc ihn =>
    simp only [ids, List.mem_cons, List.mem_append, not_or] at h
    simp [substitute, Ne.symm h.1, ihc h.2.1, ihn h.2.2]

end Forest

/-- The identities of a node and of everything below it. -/
def Node.ids (node : Node) : List NodeId :=
  node.toForest.ids

/-- The nodes below a node, each before those below it. -/
def Node.descendants (node : Node) : List Node :=
  node.children.nodes

/-- The elements below a node, in the same order. -/
def Node.elements (node : Node) : List Node :=
  node.descendants.filter Node.isElement

end PageBlocks
