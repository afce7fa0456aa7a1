import PageBlocks.Dom.Edit
/-!
# The text of a page

The text of an element is the text of the leaves below it, in order.  Elements whose text is not
meant for reading, such as scripts, keep it in leaves of their own kind: those are passed over from
outside, and are all that counts for the element that owns the kind.

## Main results

* `Forest.text_append` — the text of two forests in a row.
-/

namespace PageBlocks

/-- The kind of text that an element reads, by its name. -/
def TextKind.ofName (name : String) : TextKind :=
  match name with
  | "script" => .script
  | "style" => .stylesheet
  | "template" => .template
  | "rt" => .rubyText
  | "rp" => .rubyParenthesis
  | _ => .plain

/-- The text that a leaf adds to an element that reads the given kind. -/
def Leaf.textFor (kind : TextKind) : Leaf → String
  | .text own content => if own = kind then content else ""
  | .cdata content => if kind = .plain then content else ""
  | _ => ""

/-- The text of all leaves that are read. -/
def Forest.text (kind : TextKind) : Forest → String
  | .nil => ""
  | .leaf _ content next => content.textFor kind ++ next.text kind
  | .element _ _ children next => children.text kind ++ next.text kind

theorem Forest.text_append (kind : TextKind) (first second : Forest) :
    (first ++ second).text kind = first.text kind ++ second.text kind := by
  induction first with
  | nil => simp [Forest.text]
  | leaf id content next ih => simp [Forest.text, ih, String.append_assoc]
  | element id tag children next _ ih => simp [Forest.text, ih, String.append_assoc]

/-- Is the node text?  Comments and marked sections are not. -/
def Node.isText : Node → Bool
  | .leaf _ (.text ..) => true
  | _ => false

/-- The text of a node. -/
def Node.text : Node → String
  | .leaf _ (.text _ content) => content
  | .leaf .. => ""
  | .element _ tag children => children.text (.ofName tag.name)

/-- The children that are elements. -/
def Node.elementChildren (node : Node) : List Node :=
  node.children.toList.filter Node.isElement

/-- The value of an attribute of an element, and nothing where there is none. -/
def Node.attributeText (node : Node) (name : String) : String :=
  ((node.tag?.bind (·.attribute? name))).getD ""

end PageBlocks
