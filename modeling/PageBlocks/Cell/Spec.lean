import PageBlocks.Cell.MarkedSelector
import PageBlocks.Selector.Reader
/-!
# Cells as they are told

A cell is told either by a selector or by markup in which selectors stand between double braces.
What is a selector once its markers are set apart is taken for one, and all else is markup.
-/

namespace PageBlocks

open PageBlocks.Text

/-- A piece of markup: text to be taken as it is, or an expression to be filled in. -/
inductive Segment where
  | literal (text : List Char)
  | placeholder (expression : List Char)
deriving DecidableEq, Repr

namespace Template

/-- The text up to two closing braces on the same line, and what is after them. -/
def upToBraces? : List Char → Option (List Char × List Char)
  | '}' :: '}' :: rest => some ([], rest)
  | '\n' :: _ => none
  | c :: rest => (upToBraces? rest).map fun (inside, after) => (c :: inside, after)
  | [] => none

/-- The expression between double braces that a text begins with, and what is after it.  There is
at least one character between the braces. -/
def placeholder? : List Char → Option (List Char × List Char)
  | '{' :: '{' :: c :: rest =>
    if c = '\n' then none
    else (upToBraces? rest).map fun (inside, after) => (c :: inside, after)
  | _ => none

/-- Puts a character in front of the first literal. -/
def consLiteral (c : Char) : List Segment → List Segment
  | .literal text :: rest => .literal (c :: text) :: rest
  | rest => .literal [c] :: rest

/-- The segments of a text, where the first `inside` characters belong to a placeholder that was
found already. -/
def segmentsFrom : (inside : Nat) → List Char → List Segment
  | _, [] => []
  | inside + 1, _ :: rest => segmentsFrom inside rest
  | 0, c :: rest =>
    match placeholder? (c :: rest) with
    | some (expression, after) =>
      .placeholder (trim expression) :: segmentsFrom (rest.length - after.length) rest
    | none => consLiteral c (segmentsFrom 0 rest)

/-- The segments of markup, in order. -/
def segments (markup : List Char) : List Segment :=
  segmentsFrom 0 markup

end Template

/-- A cell as it is told. -/
inductive CellSpec where
  | selector (marked : MarkedSelector) (selector : Selector)
  | template (segments : List Segment)
deriving DecidableEq, Repr

namespace CellSpec

/-- Tells selectors from markup. -/
def parse (text : List Char) : CellSpec :=
  let marked := MarkedSelector.parse text
  match Selector.parse? marked.selector with
  | some query => .selector marked query
  | none => .template (Template.segments text)

end CellSpec

end PageBlocks
