import PageBlocks.Text.Utf8
/-!
# Text in units of two or four bytes

Bytes are read in units of two or four, in either order.  Two units of two bytes together stand for
a character beyond the first 65536.  A unit that stands for no character is replaced, and so is
what is left at the end.
-/

namespace PageBlocks.Charset.Wide

open PageBlocks.Text.Utf8 (replacementCharacter)

/-- Whether the greatest or the least part of a unit comes first. -/
inductive ByteOrder where
  | greatestFirst
  | leastFirst
deriving DecidableEq, Repr

/-- The number that the bytes of a unit write. -/
def ByteOrder.number (order : ByteOrder) (bytes : List UInt8) : Nat :=
  let bytes := match order with
    | greatestFirst => bytes
    | leastFirst => bytes.reverse
  bytes.foldl (fun value byte => value * 0x100 + byte.toNat) 0

/-- The units of two bytes, and whether a byte is left. -/
def pairUnits (order : ByteOrder) : List UInt8 → List Nat × Bool
  | first :: second :: rest =>
    let (units, isOdd) := pairUnits order rest
    (order.number [first, second] :: units, isOdd)
  | [_] => ([], true)
  | [] => ([], false)

/-- Is the unit the first half of a character? -/
def isFirstHalf (unit : Nat) : Bool :=
  0xD800 ≤ unit && unit ≤ 0xDBFF

/-- Is the unit the second half of a character? -/
def isSecondHalf (unit : Nat) : Bool :=
  0xDC00 ≤ unit && unit ≤ 0xDFFF

/-- The character that two halves make. -/
def joinHalves (first second : Nat) : Char :=
  Char.ofNat (0x10000 + (first - 0xD800) * 0x400 + (second - 0xDC00))

/-- The characters of units of two bytes; `isOdd` tells whether a byte follows the last one.  Such a
byte is replaced together with a first half before it. -/
def decodeUnits (isOdd : Bool) : List Nat → List Char
  | [] => if isOdd then [replacementCharacter] else []
  | [unit] =>
    if isFirstHalf unit then [replacementCharacter]
    else
      (if isSecondHalf unit then replacementCharacter else Char.ofNat unit) ::
        (if isOdd then [replacementCharacter] else [])
  | unit :: next :: rest =>
    if isFirstHalf unit && isSecondHalf next then joinHalves unit next :: decodeUnits isOdd rest
    else
      (if isFirstHalf unit || isSecondHalf unit then replacementCharacter
        else Char.ofNat unit) :: decodeUnits isOdd (next :: rest)

/-- The characters of bytes in units of two. -/
def decodePairs (order : ByteOrder) (bytes : List UInt8) : List Char :=
  let (units, isOdd) := pairUnits order bytes
  decodeUnits isOdd units

/-- The characters of bytes in units of four. -/
def decodeFours (order : ByteOrder) : List UInt8 → List Char
  | a :: b :: c :: d :: rest =>
    let number := order.number [a, b, c, d]
    (if number.isValidChar then Char.ofNat number else replacementCharacter) ::
      decodeFours order rest
  | [] => []
  | _ => [replacementCharacter]

/-- The characters of bytes in units of two that may tell their order by a mark at the start. -/
def decodeMarkedPairs : List UInt8 → List Char
  | 0xFE :: 0xFF :: rest => decodePairs .greatestFirst rest
  | 0xFF :: 0xFE :: rest => decodePairs .leastFirst rest
  | bytes => decodePairs .leastFirst bytes

/-- The characters of bytes in units of four that may tell their order by a mark at the start. -/
def decodeMarkedFours : List UInt8 → List Char
  | 0x00 :: 0x00 :: 0xFE :: 0xFF :: rest => decodeFours .greatestFirst rest
  | 0xFF :: 0xFE :: 0x00 :: 0x00 :: rest => decodeFours .leastFirst rest
  | bytes => decodeFours .leastFirst bytes

end PageBlocks.Charset.Wide
