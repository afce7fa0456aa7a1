import PageBlocks.Charset.Grid.Chinese
import PageBlocks.Charset.Grid.Japanese
import PageBlocks.Charset.Grid.Korean
import PageBlocks.Charset.Grid.Traditional
import PageBlocks.Charset.Group
import PageBlocks.Charset.SingleByte
/-!
# East Asian character sets

Sets that keep the basic characters and put the characters of one or more grids into groups of two
bytes, some also into groups of more.

For Chinese the characters of a grid are in pairs of bytes.  Most of those around the grid are in the
order of their codes, without those of the grid; what has no pair at all has a group of four bytes.
For Japanese the characters of a grid are put into pairs of bytes either by their rows and columns or
shifted, so that single bytes are left for syllables of half the width.  For Korean the syllables that
the grid does not hold are in pairs around it, in the order of their codes, or are put together from
their letters, which may also be packed into the bits of two bytes.

## Main results

* `Korean.placeAround?_lt` — there are 178 places around the grid in a row.
* `EastAsian.read_basic` — all of them keep the basic characters.
* `EastAsian.decode_basic` — text of basic characters is read as it is.
-/

namespace PageBlocks.Charset

/-! ## Chinese -/

namespace Chinese

/-- The place of a second byte around the grid. -/
def placeAround (second : Nat) : Nat :=
  if 0x7F < second then second - 1 else second

/-- The characters around the grid that are in the order of their codes. -/
def ordered : Array Char :=
  (remaining 0x4E00 0x9FA5 Grid.gb2312.characters ++ Grid.compatible.toList).toArray

/-- The number of one of those characters. -/
def order? (first second : Nat) : Option Nat :=
  let place := placeAround second - 0x40
  if first ≤ 0xA0 then some ((first - 0x81) * 190 + place)
  else if 0xAA ≤ first && second ≤ 0xA0 then some (6080 + (first - 0xAA) * 96 + place)
  else none

/-- Can two bytes stand around the grid? -/
def isPair (first second : Nat) : Bool :=
  0x81 ≤ first && first ≤ 0xFE && 0x40 ≤ second && second ≤ 0xFE && second ≠ 0x7F

/-- The character of two bytes, in the grid and around it. -/
def character? (first second : Nat) : Option Char :=
  if isPair first second then
    (Runs.character? Grid.symbols first (placeAround second)).or <|
      (highPair? Grid.gb2312 first second).or <|
        (order? first second).bind fun number => ordered[number]?
  else none

/-- Later additions, by their first bytes. -/
def additions : List (Nat × Nat × List Char) :=
  Grid.additions.map fun (first, place, codes) =>
    (first, place, ((codes.splitOn " ").flatMap fun piece =>
      (SingleByte.readPiece piece.toList).filterMap id))

/-- The character of two bytes, with later additions. -/
def extended? (first second : Nat) : Option Char :=
  if isPair first second then
    (character? first second).or <| additions.findSome? fun (start, place, characters) =>
      if start = first && place ≤ placeAround second then
        characters[placeAround second - place]?
      else none
  else none

/-- The characters that have groups of four bytes because they have none of two. -/
def others : Array Char :=
  let replaced := ['・', '―']
  let pairs := Grid.gb2312.characters.filter (!replaced.contains ·) ++
    Runs.characters Grid.symbols ++ ordered.toList ++
    additions.flatMap fun (_, _, characters) => characters
  ((remaining 0x80 0xD7FF pairs) ++ (remaining 0xE000 0xFFFF pairs)).toArray

/-- Is a byte a digit? -/
def isDigitByte (byte : Nat) : Bool :=
  0x30 ≤ byte && byte ≤ 0x39

/-- The character of four bytes. -/
def ofFour? (first second third fourth : Nat) : Option Char :=
  if 0x81 ≤ first && first ≤ 0xFE && isDigitByte second && 0x81 ≤ third && third ≤ 0xFE &&
      isDigitByte fourth then
    let number := ((first - 0x81) * 10 + (second - 0x30)) * 1260 + (third - 0x81) * 10 +
      (fourth - 0x30)
    if 189000 ≤ number then
      let code := 0x10000 + (number - 189000)
      if code ≤ 0x10FFFF then some (Char.ofNat code) else none
    else others[number]?
  else none

/-- The column of a second byte in the grid with more columns; 0 stands for none. -/
def wideColumn (second : Nat) : Nat :=
  if 0x40 ≤ second && second ≤ 0x7E then second - 0x3F
  else if 0xA1 ≤ second && second ≤ 0xFE then second - 0xA1 + 64
  else 0

/-- The character of two bytes in the grid with more columns. -/
def wide? (first second : Nat) : Option Char :=
  Grid.big5.character? (first - 0xA0) (wideColumn second)

/-- Reads two or four bytes. -/
def readExtended (first : UInt8) : List UInt8 → Group
  | second :: rest =>
    if isDigitByte second.toNat then
      match rest with
      | third :: fourth :: _ =>
        .ofOption 4 (ofFour? first.toNat second.toNat third.toNat fourth.toNat)
      | _ => .unfinished
    else .ofOption 2 (extended? first.toNat second.toNat)
  | [] => .unfinished

end Chinese

/-! ## Japanese -/

namespace Japanese

/-- The syllable of half the width that a byte is. -/
def halfWidth? (byte : Nat) : Option Char :=
  if 0xA1 ≤ byte && byte ≤ 0xDF then some (Char.ofNat (0xFF61 + (byte - 0xA1))) else none

/-- The row and the column that two bytes stand for. -/
def shiftedPlace? (first second : Nat) : Option (Nat × Nat) :=
  let isFirst := (0x81 ≤ first && first ≤ 0x9F) || (0xE0 ≤ first && first ≤ 0xFC)
  let isSecond := (0x40 ≤ second && second ≤ 0x7E) || (0x80 ≤ second && second ≤ 0xFC)
  if isFirst && isSecond then
    let place := (first - if first ≤ 0x9F then 0x81 else 0xC1) * 188 +
      (second - if second ≤ 0x7E then 0x40 else 0x41)
    some (place / 94 + 1, place % 94 + 1)
  else none

/-- Characters that one set has in the place of others. -/
def variants : Runs :=
  [(1, 33, "～∥"), (1, 61, "－"), (1, 81, "￠￡"), (2, 44, "￢")]

/-- The characters beyond the grid. -/
def beyond : Array Char :=
  (Grid.beyond.toList ++ Grid.selected.characters.take 360).toArray

/-- The character of that set in a row and a column.  Rows 95 to 114 are for private use. -/
def extended? (row column : Nat) : Option Char :=
  if 115 ≤ row then beyond[(row - 115) * 94 + (column - 1)]?
  else if 95 ≤ row then some (Char.ofNat (0xE000 + (row - 95) * 94 + (column - 1)))
  else
    (variants.character? row column).or <|
      (Grid.jisX0208.character? row column).or <|
        (Grid.circled.character? row column).or (Grid.selected.character? row column)

/-- The character of that set that a byte is for itself. -/
def extendedSingle? (byte : Nat) : Option Char :=
  if byte = 0x80 then some (Char.ofNat 0x80)
  else if byte = 0xA0 then some (Char.ofNat 0xF8F0)
  else if 0xFD ≤ byte then some (Char.ofNat (0xF8F1 + (byte - 0xFD)))
  else halfWidth? byte

/-- Reads two or three bytes. -/
def readUnshifted (first : UInt8) (rest : List UInt8) : Group :=
  if first = 0x8F then
    match rest with
    | second :: third :: _ => .ofOption 3 (highPair? Grid.jisX0212 second.toNat third.toNat)
    | _ => .unfinished
  else if first = 0x8E then readPair (fun _ second => halfWidth? second) first rest
  else readPair (highPair? Grid.jisX0208) first rest

end Japanese

/-! ## Korean -/

namespace Korean

/-- The syllables that the grid does not hold. -/
def otherSyllables : Array Char :=
  (remaining 0xAC00 0xD7A3 Grid.ksX1001.characters).toArray

/-- The place of a second byte around the grid. -/
def placeAround? (second : Nat) : Option Nat :=
  if 0x41 ≤ second && second ≤ 0x5A then some (second - 0x41)
  else if 0x61 ≤ second && second ≤ 0x7A then some (second - 0x61 + 26)
  else if 0x81 ≤ second && second ≤ 0xFE then some (second - 0x81 + 52)
  else none

theorem placeAround?_lt {second place : Nat} (h : placeAround? second = some place) :
    place < 178 := by
  unfold placeAround? at h
  simp only [Bool.and_eq_true, decide_eq_true_eq] at h
  split at h
  · cases h; omega
  · split at h
    · cases h; omega
    · split at h
      · cases h; omega
      · cases h

/-- The syllable of two bytes around the grid. -/
def otherSyllable? (first second : Nat) : Option Char :=
  (placeAround? second).bind fun place =>
    if 0x81 ≤ first && first ≤ 0xA0 then otherSyllables[(first - 0x81) * 178 + place]?
    else if 0xA1 ≤ first && first ≤ 0xC6 && place < 84 then
      otherSyllables[5696 + (first - 0xA1) * 84 + place]?
    else none

/-- The character of two bytes, in the grid and around it. -/
def extended? (first second : Nat) : Option Char :=
  if first = 0xA4 && second = 0xD4 then some (Char.ofNat 0x3164)
  else (highPair? Grid.ksX1001 first second).or (otherSyllable? first second)

/-- The bytes of consonants at the start of a syllable, in the order of the syllables. -/
def startBytes : List Nat :=
  [0xA1, 0xA2, 0xA4, 0xA7, 0xA8, 0xA9, 0xB1, 0xB2, 0xB3, 0xB5, 0xB6, 0xB7, 0xB8, 0xB9, 0xBA,
    0xBB, 0xBC, 0xBD, 0xBE]

/-- The bytes of consonants at the end of a syllable, in that order; the first one stands for none. -/
def endBytes : List Nat :=
  [0xD4, 0xA1, 0xA2, 0xA3, 0xA4, 0xA5, 0xA6, 0xA7, 0xA9, 0xAA, 0xAB, 0xAC, 0xAD, 0xAE, 0xAF,
    0xB0, 0xB1, 0xB2, 0xB4, 0xB5, 0xB6, 0xB7, 0xB8, 0xBA, 0xBB, 0xBC, 0xBD, 0xBE]

/-- The syllable that three letters make. -/
def syllable? (start vowel ending : UInt8) : Option Char := do
  let start ← startBytes.idxOf? start.toNat
  let vowel ← if 0xBF ≤ vowel && vowel ≤ 0xD3 then some (vowel.toNat - 0xBF) else none
  let ending ← endBytes.idxOf? ending.toNat
  return Char.ofNat (0xAC00 + start * 588 + vowel * 28 + ending)

/-- The letter of a byte in the row of letters. -/
def letter (byte : Nat) : Char :=
  Char.ofNat (0x3131 + (byte - 0xA1))

/-- The number of a consonant at the start of a syllable, which five bits tell. -/
def packedStart? (bits : Nat) : Option Nat :=
  if 2 ≤ bits && bits ≤ 20 then some (bits - 2) else none

/-- The number of a vowel, which five bits tell. -/
def packedVowel? (bits : Nat) : Option Nat :=
  if 3 ≤ bits && bits ≤ 7 then some (bits - 3)
  else if 10 ≤ bits && bits ≤ 15 then some (bits - 5)
  else if 18 ≤ bits && bits ≤ 23 then some (bits - 7)
  else if 26 ≤ bits && bits ≤ 29 then some (bits - 9)
  else none

/-- The number of a consonant at the end of a syllable, which five bits tell. -/
def packedEnding? (bits : Nat) : Option Nat :=
  if 2 ≤ bits && bits ≤ 17 then some (bits - 1)
  else if 19 ≤ bits && bits ≤ 29 then some (bits - 2)
  else none

/-- The syllable or the letter that two bytes pack.  Where the bits tell that a letter is missing they
are 1, for a vowel 2. -/
def packed? (first second : Nat) : Option Char :=
  let start := first / 4 % 32
  let vowel := first % 4 * 8 + second / 32
  let ending := second % 32
  match packedStart? start, packedVowel? vowel, packedEnding? ending with
  | some start, some vowel, some ending =>
    some (Char.ofNat (0xAC00 + start * 588 + vowel * 28 + ending))
  | some start, some vowel, none =>
    if ending = 1 then some (Char.ofNat (0xAC00 + start * 588 + vowel * 28)) else none
  | some start, none, none =>
    if vowel = 2 && ending = 1 then startBytes[start]?.map letter else none
  | none, some number, none =>
    if start = 1 && ending = 1 then some (letter (0xBF + number)) else none
  | none, none, some number =>
    if start = 1 && vowel = 2 then endBytes[number]?.map letter else none
  | none, none, none =>
    if start = 1 && vowel = 2 && ending = 1 then some (Char.ofNat 0x3000) else none
  | _, _, _ => none

/-- The character in a row and a column of the grid, with the letter that stands for a missing one. -/
def character? (row column : Nat) : Option Char :=
  if row = 4 && column = 52 then some (Char.ofNat 0x3164) else Grid.ksX1001.character? row column

/-- The character for two bytes of which the first one stands for two rows. -/
def folded? (first second : Nat) : Option Char :=
  let isSecond := (0x31 ≤ second && second ≤ 0x7E) || (0x91 ≤ second && second ≤ 0xFE)
  let isFirst := 0xD9 ≤ first && first ≤ 0xF9 && first ≠ 0xDF
  if isFirst && isSecond && !(first = 0xDA && 0xA1 ≤ second && second ≤ 0xD3) then
    let row := if first < 0xE0 then 2 * (first - 0xD9) + 1 else 2 * first - 0x196
    let place := if second < 0x91 then second - 0x31 else second - 0x43
    character? (row + place / 94) (place % 94 + 1)
  else none

/-- The character of two bytes that either pack a syllable or stand for a place of the grid. -/
def packedOrFolded? (first second : Nat) : Option Char :=
  if first < 0xD8 then packed? first second else folded? first second

/-- Reads two bytes, or eight that make a syllable. -/
def readComposed (first : UInt8) : List UInt8 → Group
  | 0xD4 :: rest =>
    if first = 0xA4 then
      match rest with
      | 0xA4 :: start :: 0xA4 :: vowel :: 0xA4 :: ending :: _ =>
        .ofOption 8 (syllable? start vowel ending)
      | _ :: _ :: _ :: _ :: _ :: _ :: _ => .unreadable
      | _ => .unfinished
    else .ofOption 2 (highPair? Grid.ksX1001 first.toNat 0xD4)
  | rest => readPair (highPair? Grid.ksX1001) first rest

end Korean

/-! ## All sets -/

/-- An East Asian character set. -/
inductive EastAsian where
  | shiftJis
  | windows932
  | eucJp
  | gb2312
  | gbk
  | gb18030
  | big5
  | windows950
  | eucKr
  | windows949
  | johab
deriving DecidableEq, Repr

namespace EastAsian

/-- The character that a byte is for itself, beside the basic ones. -/
def single? (set : EastAsian) (byte : Nat) : Option Char :=
  match set with
  | shiftJis => Japanese.halfWidth? byte
  | windows932 => Japanese.extendedSingle? byte
  | _ => none

/-- Reads the bytes of a character that is no single byte. -/
def readLong (set : EastAsian) (first : UInt8) (rest : List UInt8) : Group :=
  match set with
  | shiftJis =>
    readPair (fun first second => (Japanese.shiftedPlace? first second).bind fun (row, column) =>
      Grid.jisX0208.character? row column) first rest
  | windows932 =>
    readPair (fun first second => (Japanese.shiftedPlace? first second).bind fun (row, column) =>
      Japanese.extended? row column) first rest
  | eucJp => Japanese.readUnshifted first rest
  | gb2312 => readPair (highPair? Grid.gb2312) first rest
  | gbk => readPair Chinese.character? first rest
  | gb18030 => Chinese.readExtended first rest
  | big5 => readPair Chinese.wide? first rest
  | windows950 =>
    readPair (fun first second =>
      (Runs.character? Grid.variants (first - 0xA0) (Chinese.wideColumn second)).or
        (Chinese.wide? first second)) first rest
  | eucKr => Korean.readComposed first rest
  | windows949 => readPair Korean.extended? first rest
  | johab => readPair Korean.packedOrFolded? first rest

/-- Reads the bytes of a character. -/
def read (set : EastAsian) (first : UInt8) (rest : List UInt8) : Group :=
  if isBasic first then .character (basicCharacter first) 1
  else match set.single? first.toNat with
    | some c => .character c 1
    | none => set.readLong first rest

theorem read_basic (set : EastAsian) {first : UInt8} (rest : List UInt8)
    (h : isBasic first = true) :
    set.read first rest = .character (basicCharacter first) 1 := by
  simp [read, h]

/-- The text that bytes write. -/
def decode (set : EastAsian) (bytes : List UInt8) : List Char :=
  decodeGroups set.read 0 bytes

theorem decode_basic (set : EastAsian) {bytes : List UInt8}
    (h : ∀ byte ∈ bytes, isBasic byte = true) : set.decode bytes = bytes.map basicCharacter :=
  decodeGroups_basic (fun _ rest => set.read_basic rest) h

end EastAsian

end PageBlocks.Charset
