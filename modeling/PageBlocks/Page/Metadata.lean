import PageBlocks.Cell.Value
import PageBlocks.Page.Reading
import PageBlocks.Selector.Match
import PageBlocks.Text.Blank
/-!
# Metadata of a page

A page tells its title, a description and an image of itself in its head.
-/

namespace PageBlocks.Page

open PageBlocks.Text

/-- What a page tells under a name: names with a colon are properties. -/
def contentOf (dom : Dom) (name : String) : String :=
  let kind := if name.toList.contains ':' then "property" else "name"
  let selector := "meta[" ++ kind ++ "=\"" ++ name ++ "\"]"
  match (dom.selectFirst? Dom.documentId selector).bind dom.tag? with
  | some tag => trimString ((tag.attribute? "content").getD "")
  | none => ""

/-- The title of a page without line breaks and tabs, if it has one that is not blank. -/
def title? (dom : Dom) : Option String :=
  let text := (((dom.selectFirst? Dom.documentId "title").bind dom.find?).map Node.text).getD ""
  if isBlankText text.toList then none
  else some (String.ofList (text.toList.filter fun c => c ≠ '\n' && c ≠ '\t'))

/-- The first of several texts that is not empty. -/
def firstTold (texts : List String) : Option String :=
  texts.find? (· ≠ "")

/-- What a page tells about itself.  The image is a new element beside the document. -/
def metadata (dom : Dom) : List (String × Value) × Dom :=
  let title := (title? dom).or (firstTold [contentOf dom "og:title"])
  let description := firstTold [contentOf dom "description", contentOf dom "og:description"]
  let told (name : String) (text : Option String) : List (String × Value) :=
    (text.map fun text => (name, .text text)).toList
  let texts := told "Title" title ++ told "Description" description
  match firstTold [contentOf dom "og:image"] with
  | none => (texts, dom)
  | some source =>
    let (image, dom) := dom.createElement ⟨"img", .unspecified, [("src", source)]⟩
    (texts ++ [("Image", .element image)], dom)

end PageBlocks.Page
