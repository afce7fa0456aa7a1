import PageBlocks.Sanitize.Fragment
import PageBlocks.Url.Percent
import PageBlocks.Text.Search
/-!
# Writing fragments

A fragment is written as markup.  Void elements have no end tag, flags are written without a value,
and addresses are escaped so that they hold ASCII characters only.
-/

namespace PageBlocks.Sanitize

open PageBlocks.Text

/-- A character of text as it is written. -/
def escapeChar (c : Char) : List Char :=
  if c = '&' then "&amp;".toList
  else if c = '<' then "&lt;".toList
  else if c = '>' then "&gt;".toList
  else if c = '\r' then "&#13;".toList
  else [c]

/-- Text as it is written. -/
def escapeText (text : List Char) : List Char :=
  text.flatMap escapeChar

/-- Attributes that say by their presence all that they say. -/
def flagNames : List String :=
  ["checked", "compact", "declare", "defer", "disabled", "ismap", "multiple", "nohref",
    "noresize", "noshade", "nowrap", "readonly", "selected"]

/-- Is the value of an attribute written as an address? -/
def isWrittenAsAddress (element name : String) : Bool :=
  ["href", "action", "src"].contains name || (name = "name" && element = "a")

/-- Characters of an address that are not escaped. -/
def isAddressChar (c : Char) : Bool :=
  isAsciiLetter c || isAsciiDigit c || c.toNat = 0x27 || c.toNat = 0x60 ||
    "-_.!~*()\"#$%&+,/:;<=>?@[\\]^\x7b|\x7d".toList.contains c

/-- Blanks that an address may begin with. -/
def isAddressBlank (c : Char) : Bool :=
  c = ' ' || c = '\t' || c = '\n' || c = '\r'

/-- The value of an attribute between quotation marks. -/
def quote (value : List Char) : List Char :=
  if value.contains '"' then
    if value.any (·.toNat = 0x27) then
      '"' :: value.flatMap (fun c => if c = '"' then "&quot;".toList else [c]) ++ ['"']
    else Char.ofNat 0x27 :: value ++ [Char.ofNat 0x27]
  else '"' :: value ++ ['"']

/-- The value of an attribute as it is written. -/
def writeValue (element name : String) (value : List Char) : List Char :=
  quote (escapeText
    (if isWrittenAsAddress element name then
      Url.escape isAddressChar (value.dropWhile isAddressBlank)
    else value))

/-- An attribute as it is written. -/
def writeAttribute (element : String) (entry : String × Option String) : List Char :=
  ' ' :: entry.1.toList ++
    match entry.2 with
    | none => []
    | some value =>
      if flagNames.contains entry.1 then []
      else '=' :: writeValue element entry.1 value.toList

/-- The markup of a fragment. -/
def markup : Fragment → List Char
  | .nil => []
  | .text content next => escapeText content ++ markup next
  | .remark next => markup next
  | .element name attributes children next =>
    '<' :: name.toList ++ attributes.flatMap (writeAttribute name) ++ ['>'] ++
      (if Html.Lenient.voidNames.contains name then []
        else markup children ++ '<' :: '/' :: name.toList ++ ['>']) ++
      markup next

end PageBlocks.Sanitize
