import PageBlocks.Dom.Forest
import PageBlocks.Json.Basic
/-!
# Values of cells

What a cell holds, and what tells it: data as in a JSON document, in which elements of the page may
stand as well.

## Main results

* `Value.isPresent_text` — a text is present when it is not empty.
-/

namespace PageBlocks

/-- Data in which elements of the page may stand. -/
inductive Value where
  | null
  | bool (value : Bool)
  | integer (value : Int)
  | decimal (value : Decimal)
  | text (content : String)
  | element (id : NodeId)
  | list (items : List Value)
  | config (fields : List (String × Value))
deriving Repr, Inhabited

namespace Value

mutual

/-- The value that a JSON document writes. -/
def ofJson : Json → Value
  | .null => null
  | .bool value => bool value
  | .integer value => integer value
  | .decimal value => decimal value
  | .text content => text content
  | .list items => list (ofItems items)
  | .object fields => config (ofFields fields)

/-- The values of the items of a list. -/
def ofItems : List Json → List Value
  | [] => []
  | item :: items => ofJson item :: ofItems items

/-- The values of the fields of an object. -/
def ofFields : List (String × Json) → List (String × Value)
  | [] => []
  | (name, value) :: fields => (name, ofJson value) :: ofFields fields

end

/-- The name of the kind of a value. -/
def kindName : Value → String
  | null => "NoneType"
  | bool _ => "bool"
  | integer _ => "int"
  | decimal _ => "float"
  | text _ => "str"
  | element _ => "Tag"
  | list _ => "list"
  | config _ => "dict"

/-- Is the value anything but nothing, zero or empty? -/
def isPresent : Value → Bool
  | null => false
  | bool value => value
  | integer value => value ≠ 0
  | decimal (.finite mantissa _ _) => mantissa ≠ 0
  | decimal _ => true
  | text content => content ≠ ""
  | element _ => true
  | list items => !items.isEmpty
  | config fields => !fields.isEmpty

theorem isPresent_text (content : String) : (text content).isPresent = true ↔ content ≠ "" := by
  simp [isPresent]

/-- Are there neither rows nor fields? -/
def isEmptyRows : Value → Bool
  | list items => items.isEmpty
  | config fields => fields.isEmpty
  | _ => false

/-- Is the value a list of rows? -/
def isRows : Value → Bool
  | list _ => true
  | _ => false

/-- Is the value a mapping of fields? -/
def isConfig : Value → Bool
  | config _ => true
  | _ => false

/-- The items of a list; any other value stands for itself. -/
def itemsOrSelf : Value → List Value
  | list items => items
  | value => [value]

/-- The items of lists among other values, one level deep. -/
def flatten (values : List Value) : List Value :=
  values.flatMap itemsOrSelf

end Value

end PageBlocks
