/-!
# Grids of characters

Sets with many characters put them into rows and columns, which are counted from 1.  A row is
written as a text, in which a low line stands where there is no character; no grid holds the low line
itself.  Where only a few places are taken, they are written as runs.
-/

namespace PageBlocks.Charset

/-- Characters in rows and columns. -/
structure Grid where
  /-- The number of the first row that is written. -/
  firstRow : Nat
  rows : List String
deriving DecidableEq, Repr

namespace Grid

/-- The character at a place of a text, counted from 0; a low line is none. -/
def characterIn? (text : String) (place : Nat) : Option Char :=
  text.toList[place]?.filter (· ≠ '_')

/-- The character in a row and a column. -/
def character? (grid : Grid) (row column : Nat) : Option Char :=
  if row < grid.firstRow || column = 0 then none
  else grid.rows[row - grid.firstRow]?.bind fun text => characterIn? text (column - 1)

/-- All characters of a grid. -/
def characters (grid : Grid) : List Char :=
  grid.rows.flatMap fun text => text.toList.filter (· ≠ '_')

end Grid

/-- Runs of characters: a row, the place of the first character in it, and the characters. -/
abbrev Runs := List (Nat × Nat × String)

/-- The character of runs in a row and at a place. -/
def Runs.character? (runs : Runs) (row place : Nat) : Option Char :=
  runs.findSome? fun (start, first, text) =>
    if start = row && first ≤ place then Grid.characterIn? text (place - first) else none

/-- All characters of runs. -/
def Runs.characters (runs : Runs) : List Char :=
  runs.flatMap fun (_, _, text) => text.toList.filter (· ≠ '_')

/-- The characters of a range that are not among others. -/
def remaining (first last : Nat) (others : List Char) : List Char :=
  let marks := others.foldl (fun (marks : Array Bool) c =>
    if first ≤ c.toNat then marks.setIfInBounds (c.toNat - first) true else marks)
    (Array.replicate (last + 1 - first) false)
  ((List.range (last + 1 - first)).filter fun step => !marks.getD step true).map fun step =>
    Char.ofNat (first + step)

end PageBlocks.Charset
