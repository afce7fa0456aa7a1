import PageBlocks.Charset.EastAsian
import PageBlocks.Charset.Grid.Traditional
import PageBlocks.Charset.Grid.Japanese
import PageBlocks.Charset.Group
/-!
# Fuller East Asian character sets

Later sets fill the gaps of the older grids and add a plane to them.  A place may then stand for two
characters.
-/

namespace PageBlocks.Charset

/-- The characters of a place among pairs. -/
def pairAt? (pairs : List (Nat × Nat × String)) (row column : Nat) : Option (List Char) :=
  pairs.findSome? fun (pairRow, pairColumn, text) =>
    if pairRow = row && pairColumn = column then some text.toList else none

/-! ## Japanese -/

/-- The editions of the Japanese standard with two planes. -/
inductive Edition where
  | first
  | revised
deriving DecidableEq, Repr

namespace Japanese

/-- Places of the first plane that the revised edition has filled. -/
def filledLater : List (Nat × Nat) :=
  [(14, 1), (15, 94), (47, 52), (47, 94), (84, 7), (94, 90), (94, 91), (94, 92), (94, 93), (94, 94)]

/-- Is a place of the first plane one that the edition has left free for another one? -/
def isGap (edition : Edition) (row column : Nat) : Bool :=
  edition = .first && filledLater.contains (row, column)

/-- The characters in a row and a column of the first plane. -/
def planeOne? (edition : Edition) (row column : Nat) : Option (List Char) :=
  if isGap edition row column then none
  else
    ((Grid.jisX0208.character? row column).or
      (Runs.character? Grid.planeOne row column)).map ([·]) |>.or
        (pairAt? Grid.planeOnePairs row column)

/-- A piece of two bytes for a place of the first plane.  Where the edition has a gap, both are
replaced. -/
def planeOnePiece (edition : Edition) (row column : Nat) : Piece Unit :=
  if isGap edition row column then .replaced 1 ()
  else .ofOption 1 () (planeOne? edition row column)

/-- The character in a row and a column of the second plane. -/
def planeTwo? (edition : Edition) (row column : Nat) : Option Char :=
  if edition = .first && row = 93 && column = 27 then some '鬝'
  else Runs.character? Grid.planeTwo row column

/-- The row of the second plane for a row that follows those of the first one. -/
def planeTwoRow (row : Nat) : Nat :=
  if 104 ≤ row then row - 26
  else if 100 ≤ row || row = 96 then row - 88
  else row - 94

/-- Reads two or three bytes of two planes. -/
def unshiftedPiece (edition : Edition) (first : UInt8) (rest : List UInt8) : Piece Unit :=
  if first = 0x8E then
    match rest with
    | second :: _ => .ofOption 1 () ((halfWidth? second.toNat).map ([·]))
    | [] => .replaced 0 ()
  else if first = 0x8F then
    match rest with
    | second :: third :: _ =>
      let row := second.toNat - 0xA0
      let column := third.toNat - 0xA0
      .ofOption 2 () (((planeTwo? edition row column).or
        (Grid.jisX0212.character? row column)).map ([·]))
    | rest => .replaced rest.length ()
  else
    match rest with
    | second :: _ => planeOnePiece edition (first.toNat - 0xA0) (second.toNat - 0xA0)
    | [] => .replaced 0 ()

/-- Can the byte be the first one of two? -/
def isShiftedFirst (byte : UInt8) : Bool :=
  (0x81 ≤ byte && byte ≤ 0x9F) || (0xE0 ≤ byte && byte ≤ 0xFC)

/-- A piece of two bytes for a row and a column, where the rows of the second plane follow those of the
first one.  Two characters of which the single bytes are taken by others are the basic ones. -/
def shiftedPlacePiece (edition : Edition) (row column : Nat) : Piece Unit :=
  if row = 1 && column = 32 then ⟨['\\'], 1, ()⟩
  else if row = 2 && column = 18 then ⟨['~'], 1, ()⟩
  else if row ≤ 94 then planeOnePiece edition row column
  else .ofOption 1 () ((planeTwo? edition (planeTwoRow row) column).map ([·]))

/-- Reads two shifted bytes, or a syllable of half the width. -/
def shiftedPiece (edition : Edition) (first : UInt8) (rest : List UInt8) : Piece Unit :=
  match halfWidth? first.toNat with
  | some c => ⟨[c], 0, ()⟩
  | none =>
    if isShiftedFirst first then
      match rest with
      | second :: _ =>
        match shiftedPlace? first.toNat second.toNat with
        | some (row, column) => shiftedPlacePiece edition row column
        | none => .replaced 0 ()
      | [] => .replaced 0 ()
    else .replaced 0 ()

/-- The character of a byte in the set that Japanese machines have in the place of the basic one. -/
def romanCharacter (byte : UInt8) : Char :=
  if byte = 0x5C then '¥' else if byte = 0x7E then '‾' else basicCharacter byte

end Japanese

/-! ## Chinese -/

namespace Chinese

/-- Are two bytes in a part of the grid that Hong Kong fills anew? -/
def isRefilled (first second : UInt8) : Bool :=
  (first = 0xC6 && 0xA1 ≤ second) || first = 0xC7 || first = 0xC8

/-- The characters of two bytes with the additions of Hong Kong. -/
def hongKong? (first second : UInt8) : Option (List Char) :=
  let column := wideColumn second.toNat
  let kept := if isRefilled first second then none else wide? first.toNat second.toNat
  (kept.or (Runs.character? Grid.hongKong first.toNat column)).map ([·]) |>.or
    (pairAt? Grid.hongKongPairs first.toNat second.toNat)

/-- Reads two bytes with the additions of Hong Kong. -/
def hongKongPiece (first : UInt8) : List UInt8 → Piece Unit
  | second :: _ => .ofOption 1 () (hongKong? first second)
  | [] => .replaced 0 ()

end Chinese

/-! ## All sets -/

/-- A set with pairs of characters. -/
inductive Planes where
  | unshifted (edition : Edition)
  | shifted (edition : Edition)
  | hongKong
deriving DecidableEq, Repr

namespace Planes

/-- Reads the bytes of a character that is not basic. -/
def longPiece (set : Planes) (first : UInt8) (rest : List UInt8) : Piece Unit :=
  match set with
  | unshifted edition => Japanese.unshiftedPiece edition first rest
  | shifted edition => Japanese.shiftedPiece edition first rest
  | hongKong => Chinese.hongKongPiece first rest

/-- The character that stands for a byte of the basic ones. -/
def single (set : Planes) (byte : UInt8) : Char :=
  match set with
  | shifted _ => Japanese.romanCharacter byte
  | _ => basicCharacter byte

/-- Reads the bytes of one place. -/
def piece (set : Planes) (first : UInt8) (rest : List UInt8) : Piece Unit :=
  if isBasic first then ⟨[set.single first], 0, ()⟩ else set.longPiece first rest

/-- The reader of a set. -/
def reader (set : Planes) : Reader Unit :=
  .steady () (fun _ => set.piece) fun _ => []

end Planes

end PageBlocks.Charset
