import PageBlocks.Text.Blank
import PageBlocks.Text.Search
/-!
# Attributes that list words

The values of some attributes, such as the classes of an element, are lists of words.  They are
kept with one blank between words, whatever stood there.

## Main results

* `keptValue_of_text` — values that are no lists stay as they are written.
-/

namespace PageBlocks.Html

/-- Attributes whose value is a list of words, by element. -/
def wordListAttributes : List (String × List String) :=
  [("a", ["rel", "rev"]), ("link", ["rel", "rev"]), ("td", ["headers"]), ("th", ["headers"]),
    ("form", ["accept-charset"]), ("object", ["archive"]), ("area", ["rel"]),
    ("icon", ["sizes"]), ("iframe", ["sandbox"]), ("output", ["for"])]

/-- Attributes whose value is a list of words in every element. -/
def generalWordLists : List String := ["class", "accesskey", "dropzone"]

/-- Is the value of the attribute a list of words? -/
def isWordList (element key : String) : Bool :=
  generalWordLists.contains key ||
    ((wordListAttributes.lookup element).getD []).contains key

/-- The words of a text, set apart by blanks. -/
def words (text : List Char) : List (List Char) :=
  (text.splitOnP Text.isBlank).filter (!·.isEmpty)

/-- The value of an attribute as it is kept: lists of words have one blank between words. -/
def keptValue (element key value : String) : String :=
  if isWordList element key then
    String.ofList (Text.joinWith [' '] (words value.toList))
  else value

/-- The attributes of an element as they are kept. -/
def keptAttributes (element : String) (attributes : List (String × String)) :
    List (String × String) :=
  attributes.map fun (name, value) => (name, keptValue element name value)

theorem keptValue_of_text {element key : String} (h : isWordList element key = false)
    (value : String) : keptValue element key value = value := by
  simp [keptValue, h]

end PageBlocks.Html
