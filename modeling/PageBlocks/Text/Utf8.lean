/-!
# Text as bytes

Text is written as bytes, one to four for each character, and read back.  Where bytes are not the
beginning of a character they are read as a replacement character; bytes that could have begun a
character but do not go on as they should are replaced together.

## Main results

* `decode_nil`, `decode_ascii_cons` — bytes below 128 are read one by one.
-/

namespace PageBlocks.Text.Utf8

/-- The character that stands for bytes that cannot be read. -/
def replacementCharacter : Char := Char.ofNat 0xFFFD

/-- The bytes of a character. -/
def encodeChar (c : Char) : List UInt8 :=
  let n := c.toNat
  if n < 0x80 then [n.toUInt8]
  else if n < 0x800 then [(0xC0 + n / 0x40).toUInt8, (0x80 + n % 0x40).toUInt8]
  else if n < 0x10000 then
    [(0xE0 + n / 0x1000).toUInt8, (0x80 + n / 0x40 % 0x40).toUInt8, (0x80 + n % 0x40).toUInt8]
  else
    [(0xF0 + n / 0x40000).toUInt8, (0x80 + n / 0x1000 % 0x40).toUInt8,
      (0x80 + n / 0x40 % 0x40).toUInt8, (0x80 + n % 0x40).toUInt8]

/-- The bytes of a text. -/
def encode (text : List Char) : List UInt8 :=
  text.flatMap encodeChar

/-- How the bytes of a character go on after its first one: the least and the greatest second
byte, and how many bytes follow in all.  Nothing when the byte begins no longer character. -/
def continuation? (first : UInt8) : Option (UInt8 × UInt8 × Nat) :=
  if 0xC2 ≤ first && first ≤ 0xDF then some (0x80, 0xBF, 1)
  else if first = 0xE0 then some (0xA0, 0xBF, 2)
  else if first = 0xED then some (0x80, 0x9F, 2)
  else if 0xE1 ≤ first && first ≤ 0xEF then some (0x80, 0xBF, 2)
  else if first = 0xF0 then some (0x90, 0xBF, 3)
  else if 0xF1 ≤ first && first ≤ 0xF3 then some (0x80, 0xBF, 3)
  else if first = 0xF4 then some (0x80, 0x8F, 3)
  else none

/-- Reading goes byte by byte.  Inside a character, `owed` bytes are still to come, the next of
them between `least` and `greatest`, and `code` is the number read so far. -/
structure State where
  owed : Nat
  least : UInt8
  greatest : UInt8
  code : Nat
deriving Repr

/-- Reading between characters. -/
def State.start : State := ⟨0, 0, 0, 0⟩

/-- The number that the first byte of a character contributes. -/
def leadingBits (first : UInt8) : Nat :=
  if first < 0xE0 then first.toNat - 0xC0
  else if first < 0xF0 then first.toNat - 0xE0
  else first.toNat - 0xF0

/-- Reads a byte between characters: the characters it completes and the state after it.  `none`
stands for a byte that begins no character. -/
def beginChar (byte : UInt8) : List (Option Char) × State :=
  if byte < 0x80 then ([some (Char.ofNat byte.toNat)], .start)
  else match continuation? byte with
    | some (least, greatest, owed) => ([], ⟨owed, least, greatest, leadingBits byte⟩)
    | none => ([none], .start)

/-- Reads a byte. -/
def step (state : State) (byte : UInt8) : List (Option Char) × State :=
  match state.owed with
  | 0 => beginChar byte
  | owed + 1 =>
    if state.least ≤ byte && byte ≤ state.greatest then
      let code := state.code * 0x40 + (byte.toNat - 0x80)
      match owed with
      | 0 => ([some (Char.ofNat code)], .start)
      | _ => ([], ⟨owed, 0x80, 0xBF, code⟩)
    else
      let (found, next) := beginChar byte
      (none :: found, next)

/-- The characters of bytes, with `none` for bytes that cannot be read. -/
def readFrom (state : State) : List UInt8 → List (Option Char)
  | [] => if state.owed = 0 then [] else [none]
  | byte :: rest =>
    let (found, next) := step state byte
    found ++ readFrom next rest

/-- The text of bytes, with replacement characters for what cannot be read. -/
def decode (bytes : List UInt8) : List Char :=
  (readFrom .start bytes).map (·.getD replacementCharacter)

/-! ## Bytes that cannot be read -/

/-- What is wrong with bytes. -/
inductive Reason where
  | badStart
  | badContinuation
  | endOfData
deriving DecidableEq, Repr

/-- Bytes that cannot be read: where they are, how many they are, and the first of them. -/
structure Unreadable where
  reason : Reason
  start : Nat
  count : Nat
  first : UInt8
deriving DecidableEq, Repr

/-- The first bytes that cannot be read.  `start` and `first` tell the character that is being read,
and `offset` counts the bytes read so far. -/
def unreadableFrom? (state : State) (start : Nat) (first : UInt8) (offset : Nat) :
    List UInt8 → Option Unreadable
  | [] => if state.owed = 0 then none else some ⟨.endOfData, start, offset - start, first⟩
  | byte :: rest =>
    if state.owed = 0 then
      if byte < 0x80 || (continuation? byte).isSome then
        unreadableFrom? (step state byte).2 offset byte (offset + 1) rest
      else some ⟨.badStart, offset, 1, byte⟩
    else if state.least ≤ byte && byte ≤ state.greatest then
      unreadableFrom? (step state byte).2 start first (offset + 1) rest
    else some ⟨.badContinuation, start, offset - start, first⟩

/-- The text of bytes that can be read as a whole. -/
def decodeStrict (bytes : List UInt8) : Except Unreadable (List Char) :=
  match unreadableFrom? .start 0 0 0 bytes with
  | some fault => .error fault
  | none => .ok (decode bytes)

/-- The wording of a reason. -/
def Reason.message : Reason → String
  | badStart => "invalid start byte"
  | badContinuation => "invalid continuation byte"
  | endOfData => "unexpected end of data"

/-- The wording of a fault, for bytes that are said to be in an encoding. -/
def Unreadable.message (encoding : String) (fault : Unreadable) : String :=
  let place :=
    if fault.count = 1 then
      let digits := Nat.toDigits 16 fault.first.toNat
      let digits := if digits.length = 1 then '0' :: digits else digits
      s!"byte 0x{String.ofList digits} in position {fault.start}"
    else s!"bytes in position {fault.start}-{fault.start + fault.count - 1}"
  s!"'{encoding}' codec can't decode {place}: {fault.reason.message}"

theorem decode_nil : decode [] = [] := rfl

theorem decode_ascii_cons {byte : UInt8} (h : byte < 0x80) (rest : List UInt8) :
    decode (byte :: rest) = Char.ofNat byte.toNat :: decode rest := by
  simp [decode, readFrom, step, State.start, beginChar, h]

end PageBlocks.Text.Utf8
