import PageBlocks.Html.Token
import PageBlocks.Html.Literal.Reference
import PageBlocks.Text.Blank
import PageBlocks.Text.Case
/-!
# Start tags, taken literally

A start tag is a name and attributes, with blanks and slashes between them.  A value in quotation
marks that are not closed is no value.
-/

namespace PageBlocks.Html.Literal

open PageBlocks.Text (isBlank)

/-- A name in small letters. -/
def smallName (name : List Char) : String :=
  String.ofList (Text.lower name)

/-- Drops the blanks and slashes at the start of a text, but no slash that closes a tag. -/
def dropGaps : List Char → List Char
  | [] => []
  | '/' :: '>' :: rest => '/' :: '>' :: rest
  | c :: rest => if c = '/' || isBlank c then dropGaps rest else c :: rest

/-- Does a text start with a blank or a slash that closes no tag? -/
def startsWithGap : List Char → Bool
  | '/' :: '>' :: _ => false
  | c :: _ => c = '/' || isBlank c
  | [] => false

/-- The text between a quotation mark and the next one, and what follows. -/
def readQuoted? (mark : Char) (text : List Char) : Option (List Char × List Char) :=
  match text.dropWhile (· ≠ mark) with
  | _ :: after => some (text.takeWhile (· ≠ mark), after)
  | [] => none

/-- Does this character belong to a value without quotation marks? -/
def isBareChar (c : Char) : Bool :=
  !(c = '>' || isBlank c)

/-- Reads a value after equals signs: the value, whether a mark ends it, and the rest.  Before a
mark that is not closed the value is empty when there is a blank; of several equals signs the last
one then starts the value. -/
def readValue? (text : List Char) : Option (List Char × Bool × List Char) :=
  let signs := (text.dropWhile isBlank).takeWhile (· = '=')
  let after := (text.dropWhile isBlank).dropWhile (· = '=')
  let bare (text : List Char) := (text.takeWhile isBareChar, false, text.dropWhile isBareChar)
  if signs.isEmpty then none
  else match after.dropWhile isBlank with
    | [] => some ([], false, [])
    | c :: rest =>
      if isQuotationMark c then
        match readQuoted? c rest with
        | some (value, rest) => some (value, true, rest)
        | none =>
          if after.head?.any isBlank then some ([], false, ' ' :: c :: rest)
          else if 2 ≤ signs.length then some (bare ('=' :: after))
          else none
      else some (bare (c :: rest))

/-- Does this character belong to the name of an attribute after its first character? -/
def isAttributeChar (c : Char) : Bool :=
  !(isBlank c || c = '/' || c = '=' || c = '>')

/-- Reads an attribute: its name and value, whether another one may follow at once, and the
rest. -/
def readAttribute? (text : List Char) :
    Option ((String × Option String) × Bool × List Char) :=
  match text with
  | [] => none
  | c :: rest =>
    if isBlank c || c = '/' || c = '>' then none
    else
      let name := c :: rest.takeWhile isAttributeChar
      let afterName := rest.dropWhile isAttributeChar
      let (value, marked, after) :=
        match readValue? afterName with
        | some (value, marked, after) => (some value, marked, after)
        | none => (none, name.getLast?.any isQuotationMark, afterName)
      some ((smallName name, value.map fun value => String.ofList (unescape value)),
        marked || startsWithGap after, dropGaps after)

/-- Reads attributes as long as they follow each other.  The fuel bounds their number. -/
def readAttributes : (fuel : Nat) → List Char → WrittenAttributes × List Char
  | 0, text => ([], text)
  | fuel + 1, text =>
    match readAttribute? text with
    | none => ([], text)
    | some (entry, mayFollow, rest) =>
      if mayFollow then
        let (entries, rest) := readAttributes fuel rest
        (entry :: entries, rest)
      else ([entry], rest)

/-- Does this character belong to the name of a tag? -/
def isNameChar (c : Char) : Bool :=
  !("\t\n\r />".toList.contains c || c.toNat = 12 || c.toNat = 0)

/-- A start tag: name and attributes, and whether it closes itself. -/
structure StartTag where
  name : String
  attributes : WrittenAttributes
  selfClosing : Bool
deriving DecidableEq, Repr

/-- Reads a start tag from its name on; nothing when it is not finished. -/
def readStartTag? (text : List Char) : Option (StartTag × List Char) :=
  let name := smallName (text.takeWhile isNameChar)
  let (attributes, rest) := readAttributes (text.length + 1) (dropGaps (text.dropWhile isNameChar))
  match rest with
  | '>' :: rest => some (⟨name, attributes, false⟩, rest)
  | '/' :: '>' :: rest => some (⟨name, attributes, true⟩, rest)
  | _ => none

end PageBlocks.Html.Literal
