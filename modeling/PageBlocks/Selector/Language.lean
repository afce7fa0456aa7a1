import PageBlocks.Text.Case
import PageBlocks.Text.Search
/-!
# Language ranges

A language range such as `de-DE` or `*-CH` admits the language tags that have its parts in the
same order, where parts may be left out between them.
-/

namespace PageBlocks.Selector.Language

open PageBlocks.Text

/-- Drops the wildcards that follow a dropped one. -/
def dropMoreWildcards : List Char → List Char
  | '*' :: '-' :: rest => dropMoreWildcards rest
  | ['*'] => []
  | rest => rest

/-- A range without the wildcards that do not come first: each run of them becomes a hyphen. -/
def dropWildcards : (fuel : Nat) → List Char → List Char
  | 0, text => text
  | fuel + 1, text =>
    match text with
    | '-' :: '*' :: '-' :: rest => '-' :: dropWildcards fuel (dropMoreWildcards rest)
    | ['-', '*'] => ['-']
    | c :: rest => c :: dropWildcards fuel rest
    | [] => []

/-- Do the parts of a range occur among the parts of a tag, in order?  A part of one letter may not
be passed over. -/
def admitsParts : (ranges : List (List Char)) → (parts : List (List Char)) → Bool
  | [], _ => true
  | _ :: _, [] => false
  | range :: ranges, part :: parts =>
    if range.isEmpty then false
    else if part = range then admitsParts ranges parts
    else if part.length = 1 then false
    else admitsParts (range :: ranges) parts

/-- Does a language range admit a language tag? -/
def admits (range tag : List Char) : Bool :=
  let ranges := splitOn ['-'] (lower (dropWildcards (range.length + 1) range))
  let parts := splitOn ['-'] (lower tag)
  match ranges, parts with
  | [[]], [[]] => true
  | first :: ranges, part :: parts =>
    let firstFits :=
      if first = ['*'] then !(part.isEmpty && parts.isEmpty) else first = part
    firstFits && admitsParts ranges parts
  | _, _ => false

end PageBlocks.Selector.Language
