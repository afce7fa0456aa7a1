import PageBlocks.Dom.Text
import PageBlocks.Text.Search
import PageBlocks.Text.Blank
import PageBlocks.Text.Case
/-!
# Writing markup

The markup of a node: attributes in the order of their names, void elements closed by a slash,
and only `&`, `<` and `>` escaped.  The text directly inside `script` and `style` is written as
it is.  A page always leaves in one encoding, so a `meta` element that declares one names that.

## Main results

* `Forest.markup_append` — the markup of two forests in a row.
* `escapeText_eq_self` — text without the three special characters is written as it is.
-/

namespace PageBlocks

/-- The written form of one character of text. -/
def escapeChar (c : Char) : List Char :=
  match c with
  | '&' => "&amp;".toList
  | '<' => "&lt;".toList
  | '>' => "&gt;".toList
  | _ => [c]

/-- Text with its special characters escaped. -/
def escapeText (content : String) : String :=
  String.ofList (content.toList.flatMap escapeChar)

theorem escapeText_eq_self {content : String}
    (h : ∀ c ∈ content.toList, c ≠ '&' ∧ c ≠ '<' ∧ c ≠ '>') : escapeText content = content := by
  have key : ∀ cs : List Char, (∀ c ∈ cs, c ≠ '&' ∧ c ≠ '<' ∧ c ≠ '>') →
      cs.flatMap escapeChar = cs := by
    intro cs
    induction cs with
    | nil => intro _; rfl
    | cons c cs ih =>
      intro hc
      have h1 := hc c (by simp)
      have h2 := ih fun d hd => hc d (by simp [hd])
      have h3 : escapeChar c = [c] := by
        unfold escapeChar
        split <;> simp_all
      simp [h2, h3]
  simp [escapeText, key content.toList h]

/-- An attribute value between quotation marks.  Double marks are used unless the value holds some
and no single ones. -/
def quoteAttribute (value : String) : String :=
  let escaped := escapeText value
  let chars := escaped.toList
  if chars.contains '"' then
    if chars.contains (Char.ofNat 0x27) then
      "\"" ++ String.ofList (Text.replaceAll ['"'] "&quot;".toList chars) ++ "\""
    else "'" ++ escaped ++ "'"
  else "\"" ++ escaped ++ "\""

/-- The encoding in which pages leave. -/
def outputEncoding : String := "utf-8"

/-- Elements that have no content, and no end tag when they hold nothing. -/
def voidElements : List String :=
  ["area", "base", "br", "col", "embed", "hr", "img", "input", "keygen", "link", "menuitem",
    "meta", "param", "source", "track", "wbr", "basefont", "bgsound", "command", "frame", "image",
    "isindex", "nextid", "spacer"]

/-- Elements whose text is written as it is. -/
def rawTextElements : List String := ["script", "style"]

/-- Names the output encoding in a part of a content type: the rest of the part gives way from the
first `charset=` that starts it or follows a blank.  `fresh` tells whether it may stand here. -/
def renameCharsetIn (fresh : Bool) : List Char → List Char
  | [] => []
  | c :: rest =>
    if fresh && Text.startsWith "charset=".toList (c :: rest) then
      "charset=".toList ++ outputEncoding.toList
    else c :: renameCharsetIn (Text.isBlank c) rest

/-- Names the output encoding in each part of a content type. -/
def renameCharset (content : String) : String :=
  String.ofList (Text.joinWith [';']
    ((Text.splitOn [';'] content.toList).map (renameCharsetIn true)))

/-- The attributes of a tag as they leave: a declared encoding is that of the output. -/
def Tag.writtenAttributes (tag : Tag) : List (String × String) :=
  if tag.name = "meta" then
    if (tag.attribute? "charset").isSome then
      (tag.setAttribute "charset" outputEncoding).attributes
    else
      match tag.attribute? "content", tag.attribute? "http-equiv" with
      | some content, some kind =>
        if Text.asciiLower kind.toList = "content-type".toList then
          (tag.setAttribute "content" (renameCharset content)).attributes
        else tag.attributes
      | _, _ => tag.attributes
  else tag.attributes

/-- The start tag of an element up to the closing bracket. -/
def Tag.opening (tag : Tag) : String :=
  let sorted := tag.writtenAttributes.mergeSort fun a b => decide (a.1 ≤ b.1)
  "<" ++ tag.name ++ String.join (sorted.map fun (name, value) =>
    " " ++ name ++ "=" ++ quoteAttribute value)

/-- The markup of a leaf; `raw` holds inside elements whose text is not escaped. -/
def Leaf.markup (raw : Bool) : Leaf → String
  | .text _ content => if raw then content else escapeText content
  | .comment content => "<!--" ++ content ++ "-->"
  | .cdata content => "<![CDATA[" ++ content ++ "]]>"
  | .doctype content => "<!DOCTYPE " ++ content ++ ">\n"
  | .declaration content => "<?" ++ content ++ "?>"
  | .instruction content => "<?" ++ content ++ ">"

/-- The markup of an element around the markup of its children. -/
def Tag.wrap (tag : Tag) (isEmpty : Bool) (inner : String) : String :=
  if tag.isDocument then inner
  else if isEmpty && voidElements.contains tag.name then tag.opening ++ "/>"
  else tag.opening ++ ">" ++ inner ++ "</" ++ tag.name ++ ">"

/-- Is there no node at all? -/
def Forest.isEmpty : Forest → Bool
  | .nil => true
  | _ => false

/-- The markup of a forest. -/
def Forest.markup (raw : Bool) : Forest → String
  | .nil => ""
  | .leaf _ content next => content.markup raw ++ next.markup raw
  | .element _ tag children next =>
    tag.wrap children.isEmpty (children.markup (rawTextElements.contains tag.name)) ++
      next.markup raw

theorem Forest.markup_append (raw : Bool) (first second : Forest) :
    (first ++ second).markup raw = first.markup raw ++ second.markup raw := by
  induction first with
  | nil => simp [Forest.markup]
  | leaf id content next ih => simp [Forest.markup, ih, String.append_assoc]
  | element id tag children next _ ih => simp [Forest.markup, ih, String.append_assoc]

/-- The markup of a node.  Text on its own is escaped. -/
def Node.markup (node : Node) : String :=
  node.toForest.markup false

/-- The markup of all that is inside a node. -/
def Node.innerMarkup (node : Node) : String :=
  node.children.markup (rawTextElements.contains node.name)

end PageBlocks
