import PageBlocks.Text.Blank
import PageBlocks.Text.Letter
/-!
# The words and numbers of a date

A written date is cut where letters, digits and other characters meet.  Dots are the difficulty:
they separate in `3.Sep.2009` and belong to the number in `30.25`.  Text with dots is therefore read
on, and cut at its dots only if it turns out not to be a single number.
-/

namespace PageBlocks.Calendar

open PageBlocks.Text

/-- A word, a number, a blank or another character. -/
abbrev Token := List Char

/-- What the token at hand looks like so far. -/
inductive Shape where
  | word
  | number
  | dottedWord
  | dottedNumber
deriving DecidableEq, Repr

/-- The token at hand. -/
structure Partial where
  shape : Shape
  /-- Its characters, the latest one first. -/
  reversed : List Char
  sawLetters : Bool
deriving DecidableEq, Repr

/-- Characters at which dotted text is cut. -/
def isMark (c : Char) : Bool :=
  c = '.' || c = ','

/-- Dotted text cut at its marks, which are tokens themselves. -/
def splitMarks : List Char → List Token
  | [] => []
  | c :: rest =>
    if isMark c then [c] :: splitMarks rest
    else match splitMarks rest with
      | [] => [[c]]
      | (d :: piece) :: pieces =>
        if isMark d then [c] :: (d :: piece) :: pieces else (c :: d :: piece) :: pieces
      | [] :: pieces => [c] :: pieces

/-- The tokens that the text at hand turns out to be. -/
def Partial.finish (current : Partial) : List Token :=
  let text := current.reversed.reverse
  let isDotted := current.shape = .dottedWord || current.shape = .dottedNumber
  if isDotted && (current.sawLetters || 1 < text.count '.' || current.reversed.head?.any isMark) then
    splitMarks text
  else if current.shape = .dottedNumber && !text.contains '.' then
    [text.map fun c => if c = ',' then '.' else c]
  else [text]

/-- The token at hand with one more character, unless the character begins another token. -/
def Partial.extend? (current : Partial) (c : Char) : Option Partial :=
  let afterDot := current.reversed.head? = some '.'
  let more (shape : Shape) (sawLetters : Bool) : Option Partial :=
    some ⟨shape, c :: current.reversed, sawLetters⟩
  match current.shape with
  | .word => if isLetter c then more .word true else if c = '.' then more .dottedWord true else none
  | .number =>
    if isDigit c then more .number current.sawLetters
    else if c = '.' || (c = ',' && 2 ≤ current.reversed.length) then
      more .dottedNumber current.sawLetters
    else none
  | .dottedWord =>
    if c = '.' || isLetter c then more .dottedWord true
    else if isDigit c && afterDot then more .dottedNumber true
    else none
  | .dottedNumber =>
    if c = '.' || isDigit c then more .dottedNumber current.sawLetters
    else if isLetter c && afterDot then more .dottedWord current.sawLetters
    else none

/-- Has the token at hand come past its first character when it ends?  A word that ends before
another character has been looked at, which counts as having seen its letters. -/
def Partial.stop (current : Partial) : Partial :=
  match current.shape with
  | .word | .dottedWord => { current with sawLetters := true }
  | _ => current

/-- The tokens of a text, where `current` is the token at hand. -/
def tokensFrom : (current : Option Partial) → List Char → List Token
  | none, [] => []
  | some current, [] => current.finish
  | current, c :: rest =>
    match current.bind (·.extend? c) with
    | some current => tokensFrom (some current) rest
    | none =>
      let before := match current with
        | some current => current.stop.finish
        | none => []
      if isLetter c then before ++ tokensFrom (some ⟨.word, [c], false⟩) rest
      else if isDigit c then before ++ tokensFrom (some ⟨.number, [c], false⟩) rest
      else before ++ [if isBlank c then ' ' else c] :: tokensFrom none rest

/-- The tokens of a text. -/
def tokens (text : List Char) : List Token :=
  tokensFrom none (text.filter fun c => c.toNat ≠ 0)

end PageBlocks.Calendar
