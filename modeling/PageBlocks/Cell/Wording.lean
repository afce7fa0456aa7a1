import PageBlocks.Cell.Value
import PageBlocks.Dom.Markup
import PageBlocks.Text.Quoted
/-!
# Values as text

A value that is put into a page as text is written out: text as it is, and everything else in a
notation with brackets, in which text is quoted.
-/

namespace PageBlocks.Value

open PageBlocks.Text

/-- Pieces with a comma and a blank between them. -/
def listed : List (List Char) → List Char
  | [] => []
  | [piece] => piece
  | piece :: pieces => piece ++ ',' :: ' ' :: listed pieces

mutual

/-- A value in the notation with brackets. -/
def bracketed (dom : Dom) : Value → List Char
  | .null => "None".toList
  | .bool value => (if value then "True" else "False").toList
  | .integer value => Json.writeInteger value
  | .decimal value => (value.write "inf" "nan").toList
  | .text content => quoted content.toList
  | .element id => (((dom.find? id).map Node.markup).getD "").toList
  | .list items => '[' :: listed (itemNotations dom items) ++ [']']
  | .config fields => Char.ofNat 0x7B :: listed (fieldNotations dom fields) ++ [Char.ofNat 0x7D]

/-- The items of a list in that notation. -/
def itemNotations (dom : Dom) : List Value → List (List Char)
  | [] => []
  | item :: items => bracketed dom item :: itemNotations dom items

/-- Fields in that notation. -/
def fieldNotations (dom : Dom) : List (String × Value) → List (List Char)
  | [] => []
  | (name, value) :: fields =>
    (quoted name.toList ++ ':' :: ' ' :: bracketed dom value) :: fieldNotations dom fields

end

/-- A value as text. -/
def wording (dom : Dom) : Value → String
  | .text content => content
  | value => String.ofList (bracketed dom value)

end PageBlocks.Value
