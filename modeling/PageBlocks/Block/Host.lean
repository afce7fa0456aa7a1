import PageBlocks.Block.Table
import PageBlocks.Page.Metadata
import PageBlocks.Text.Blank
import PageBlocks.Text.Case
import PageBlocks.Url.Path
/-!
# Hosts

A host is what pages are imported into.  It decides how a block looks, what it is called, what is
known about a page, and where the page goes.

The name that a block is shown by is derived from its type: dashes become blanks, and words begin
with a capital.  A character counts as the beginning of a word when a blank is read together with
it, so that of several blanks in a row the first one takes the second.
-/

namespace PageBlocks

/-! ## Names of blocks -/

section

open PageBlocks.Text

/-- A text whose words begin with capitals, apart from the first word. -/
def capitalizeWords : List Char → List Char
  | [] => []
  | [c] => [c]
  | c :: d :: rest =>
    if isBlank c && d ≠ '\n' then upper [c, d] ++ capitalizeWords rest
    else c :: capitalizeWords (d :: rest)

/-- A text that begins with a capital. -/
def capitalizeFirst (text : List Char) : List Char :=
  upper (text.take 1) ++ text.drop 1

/-- The name of blocks of a type. -/
def blockName (type : String) : String :=
  String.ofList <| capitalizeFirst <| capitalizeWords <|
    type.toList.map fun c => if c = '-' then ' ' else c

end

/-! ## What a host does -/

/-- What pages are imported into. -/
structure Host where
  /-- Makes a block from cells, beside the document, if it can. -/
  createBlock : Dom → (name : String) → (variants : List String) → (cells : Value) →
    Outcome BlockFault (Option NodeId)
  blockName : (type : String) → String
  metadata : Dom → List (String × Value) × Dom
  removeElements : Dom → (root : NodeId) → (selectors : List String) → Dom
  cleanPath : List Char → List Char
  sanitize : Sanitize.Sanitizer

/-- Takes all elements out of the page that selectors find, one selector after another. -/
def removeElements (dom : Dom) (root : NodeId) (selectors : List String) : Dom :=
  selectors.foldl (fun dom selector => (dom.selectText root selector).foldl Dom.detach dom) dom

/-- The host whose blocks are tables. -/
def standardHost (sanitize : Sanitize.Sanitizer) : Host where
  createBlock := Block.createTable
  blockName
  metadata := Page.metadata
  removeElements
  cleanPath := Url.cleanPath
  sanitize

/-- A host that never makes a block. -/
def Host.withoutBlocks (host : Host) : Host :=
  { host with createBlock := fun dom _ _ _ => (.ok none, dom) }

end PageBlocks
