import PageBlocks.Charset.Group
import PageBlocks.Json.Reader
/-!
# Text in basic characters

Some ways to write text do with the basic characters: others are put into digits, into escapes after a
backslash, or into numbers after the text.  Halves of characters, which such text may tell alone, are
replaced.

## Main results

* `Punycode.decode_hyphen` — text with no numbers behind its last hyphen stands for itself.
-/

namespace PageBlocks.Charset

open PageBlocks.Text.Utf8 (replacementCharacter)

/-- The character with a code, where halves of characters and codes of none are replaced. -/
def ofCode (code : Nat) : Char :=
  if code.isValidChar then Char.ofNat code else replacementCharacter

/-! ## Digits -/

namespace Base64

/-- The value of a digit. -/
def digit? (byte : UInt8) : Option Nat :=
  if 0x41 ≤ byte && byte ≤ 0x5A then some (byte.toNat - 0x41)
  else if 0x61 ≤ byte && byte ≤ 0x7A then some (byte.toNat - 0x61 + 26)
  else if 0x30 ≤ byte && byte ≤ 0x39 then some (byte.toNat - 0x30 + 52)
  else if byte = 0x2B then some 62
  else if byte = 0x2F then some 63
  else none

/-- What is known of a unit inside a run of digits. -/
structure Run where
  /-- How many bits are left over. -/
  bits : Nat
  /-- Their value. -/
  value : Nat
  /-- The first half of a character whose second half is awaited. -/
  half : Option Nat
deriving DecidableEq, Repr

/-- The characters that a unit writes after a first half, and the half that it is. -/
def takeUnit (half : Option Nat) (unit : Nat) : List Char × Option Nat :=
  let isFirst := 0xD800 ≤ unit && unit ≤ 0xDBFF
  let isSecond := 0xDC00 ≤ unit && unit ≤ 0xDFFF
  match half with
  | some first =>
    if isSecond then ([Char.ofNat (0x10000 + (first - 0xD800) * 0x400 + (unit - 0xDC00))], none)
    else if isFirst then ([replacementCharacter], some unit)
    else ([replacementCharacter, ofCode unit], none)
  | none => if isFirst then ([], some unit) else ([ofCode unit], none)

/-- Reads a digit. -/
def takeDigit (run : Run) (digit : Nat) : Piece (Option Run) :=
  let bits := run.bits + 6
  let value := run.value * 64 + digit
  if 16 ≤ bits then
    let left := bits - 16
    let (text, half) := takeUnit run.half (value >>> left)
    ⟨text, 0, some ⟨left, value % (1 <<< left), half⟩⟩
  else ⟨[], 0, some ⟨bits, value, run.half⟩⟩

/-- Reads a byte outside a run of digits. -/
def outsidePiece (byte : UInt8) (rest : List UInt8) : Piece (Option Run) :=
  if byte = 0x2B then
    match rest with
    | [] => ⟨[], 0, some ⟨0, 0, none⟩⟩
    | second :: _ =>
      if second = 0x2D then ⟨['+'], 1, none⟩
      else if (digit? second).isNone then .replaced 1 none
      else ⟨[], 0, some ⟨0, 0, none⟩⟩
  else if isBasic byte then ⟨[basicCharacter byte], 0, none⟩
  else .replaced 0 none

/-- Are the bits that are left over more than padding? -/
def Run.isCut (run : Run) : Bool :=
  6 ≤ run.bits || run.value ≠ 0

/-- Reads the byte that ends a run of digits. -/
def endPiece (run : Run) (byte : UInt8) (rest : List UInt8) : Piece (Option Run) :=
  if run.isCut then .replaced 0 none
  else
    let pending :=
      if run.half.isSome && isBasic byte && byte ≠ 0x2B then [replacementCharacter] else []
    let next : Piece (Option Run) := if byte = 0x2D then ⟨[], 0, none⟩ else outsidePiece byte rest
    { next with text := pending ++ next.text }

/-- The reader of text with runs of digits after a plus. -/
def reader : Reader (Option Run) :=
  .steady none
    (fun
      | none, byte, rest => outsidePiece byte rest
      | some run, byte, rest =>
        match digit? byte with
        | some digit => takeDigit run digit
        | none => endPiece run byte rest)
    fun run => if run.any fun run => run.half.isSome || run.isCut then [replacementCharacter] else []

end Base64

/-! ## Escapes -/

namespace Backslash

/-- Reads a number of digits that an escape asks for. -/
def numberPiece (count : Nat) (rest : List UInt8) : Piece Unit :=
  let values := ((rest.take count).map fun byte => Json.hexDigit? (basicCharacter byte)).takeWhile
    (·.isSome)
  if values.length < count then .replaced (1 + values.length) ()
  else
    ⟨[ofCode (values.foldl (fun value digit => value * 16 + digit.getD 0) 0)], 1 + count, ()⟩

/-- Reads the name of a character.  No names are known. -/
def namePiece : List UInt8 → Piece Unit
  | 0x7B :: rest =>
    let name := rest.takeWhile (· ≠ 0x7D)
    if name.isEmpty then .replaced 2 ()
    else if name.length < rest.length then .replaced (3 + name.length) ()
    else .replaced (2 + name.length) ()
  | _ => .replaced 1 ()

/-- The digits of an octal number that bytes start with, three at most. -/
def octalDigits (bytes : List UInt8) : List Nat :=
  ((bytes.take 3).takeWhile fun byte => 0x30 ≤ byte && byte ≤ 0x37).map fun byte =>
    byte.toNat - 0x30

/-- What letters stand for after a backslash. -/
def letters : List (Char × Char) :=
  [('\\', '\\'), ('\'', '\''), ('"', '"'), ('b', Char.ofNat 0x08), ('f', Char.ofNat 0x0C),
    ('t', '\t'), ('n', '\n'), ('r', '\r'), ('v', Char.ofNat 0x0B), ('a', Char.ofNat 0x07)]

/-- Reads an escape, where only codes may be escaped or other characters as well. -/
def escapePiece (onlyCodes : Bool) : List UInt8 → Piece Unit
  | [] => if onlyCodes then ⟨['\\'], 0, ()⟩ else .replaced 0 ()
  | byte :: rest =>
    let octal := octalDigits (byte :: rest)
    if byte = 0x75 then numberPiece 4 rest
    else if byte = 0x55 then numberPiece 8 rest
    else if onlyCodes then ⟨['\\', basicCharacter byte], 1, ()⟩
    else if byte = 0x78 then numberPiece 2 rest
    else if byte = 0x4E then namePiece rest
    else if byte = 0x0A then ⟨[], 1, ()⟩
    else if !octal.isEmpty then
      ⟨[Char.ofNat (octal.foldl (fun value digit => value * 8 + digit) 0)], octal.length, ()⟩
    else match letters.lookup (basicCharacter byte) with
      | some c => ⟨[c], 1, ()⟩
      | none => ⟨['\\', basicCharacter byte], 1, ()⟩

/-- Reads a byte or an escape. -/
def piece (onlyCodes : Bool) (byte : UInt8) (rest : List UInt8) : Piece Unit :=
  if byte = 0x5C then escapePiece onlyCodes rest else ⟨[basicCharacter byte], 0, ()⟩

/-- The reader of text with escapes. -/
def reader (onlyCodes : Bool) : Reader Unit :=
  .steady () (fun _ => piece onlyCodes) fun _ => []

end Backslash

/-! ## Numbers after the text -/

namespace Punycode

/-- The value of a digit. -/
def digit? (byte : UInt8) : Option Nat :=
  if 0x41 ≤ byte && byte ≤ 0x5A then some (byte.toNat - 0x41)
  else if 0x61 ≤ byte && byte ≤ 0x7A then some (byte.toNat - 0x61)
  else if 0x30 ≤ byte && byte ≤ 0x39 then some (byte.toNat - 0x30 + 26)
  else none

/-- Text into which characters are inserted one after the other, and the number that is read. -/
structure Insertion where
  text : List Char
  /-- Where the next character may go at the earliest. -/
  position : Nat
  /-- The code of the latest character. -/
  code : Nat
  bias : Nat
  isFirst : Bool
  /-- The weight of the next digit. -/
  weight : Nat
  /-- How many digits the number has so far. -/
  place : Nat
  number : Nat

/-- Where insertion starts. -/
def Insertion.start (text : List Char) : Insertion :=
  ⟨text, 0, 0x80, 72, true, 1, 0, 0⟩

/-- The least digit that does not end a number. -/
def threshold (place bias : Nat) : Nat :=
  min 26 (max 1 (36 * (place + 1) - bias))

/-- How often a number is divided until it is small, times 36, and the number that is left. -/
def scaleDown (divided number : Nat) : Nat × Nat :=
  if 455 < number then scaleDown (divided + 36) (number / 35) else (divided, number)
termination_by number

/-- The bias that follows a number. -/
def nextBias (number : Nat) (isFirst : Bool) (length : Nat) : Nat :=
  let number := if isFirst then number / 700 else number / 2
  let (divided, number) := scaleDown 0 (number + number / length)
  divided + 36 * number / (number + 38)

/-- The text with the character that a whole number tells. -/
def Insertion.insert (state : Insertion) (number : Nat) : Insertion :=
  let reached := state.position + number
  let places := state.text.length + 1
  let told := state.code + reached / places
  let code := if 0x10FFFF < told then 0x3F else told
  let position := reached % places
  { text := state.text.take position ++ ofCode code :: state.text.drop position
    position := position + 1
    code := code
    bias := nextBias number state.isFirst places
    isFirst := false
    weight := 1
    place := 0
    number := 0 }

/-- The text after a digit. -/
def Insertion.takeDigit (state : Insertion) (digit : Nat) : Insertion :=
  let limit := threshold state.place state.bias
  let number := state.number + digit * state.weight
  if digit < limit then state.insert number
  else { state with weight := state.weight * (36 - limit), place := state.place + 1, number := number }

/-- The text after the numbers that bytes tell, as far as they can be read. -/
def insertAll (state : Insertion) : List UInt8 → List Char
  | [] => state.text
  | byte :: rest =>
    match digit? byte with
    | none => state.text
    | some digit => insertAll (state.takeDigit digit) rest

/-- The bytes before the last hyphen, and those that tell numbers. -/
def split (bytes : List UInt8) : List UInt8 × List UInt8 :=
  let numbers := (bytes.reverse.takeWhile (· ≠ 0x2D)).reverse
  (bytes.take (bytes.length - numbers.length - 1), numbers)

/-- The character of a byte of the text. -/
def textCharacter (byte : UInt8) : Char :=
  if isBasic byte then basicCharacter byte else replacementCharacter

/-- The first byte that is not basic, and its place. -/
def firstHigh? (bytes : List UInt8) : Option (UInt8 × Nat) :=
  let before := bytes.takeWhile isBasic
  (bytes[before.length]?).map (·, before.length)

/-- The text of bytes, or the byte that keeps the numbers from being read, and its place. -/
def decode (bytes : List UInt8) : Except (UInt8 × Nat) (List Char) :=
  let (text, numbers) := split bytes
  match firstHigh? numbers with
  | some high => .error high
  | none => .ok (insertAll (.start (text.map textCharacter)) numbers)

theorem decode_hyphen (bytes : List UInt8) :
    decode (bytes ++ [0x2D]) = .ok (bytes.map textCharacter) := by
  simp [decode, split, firstHigh?, insertAll, Insertion.start]

end Punycode

end PageBlocks.Charset
