import PageBlocks.Charset.Planes
import PageBlocks.Charset.SingleByte
/-!
# Text with escape sequences

In these sets all bytes are small, and sequences of them tell what the following ones stand for.  A
sequence designates a set for one of three places: the first place is that of ordinary bytes, the
second one that of bytes after a shift, and the third one that of a byte with a mark of its own.

## Main results

* `Escaped.piece?_high` — a large byte is replaced alone.
* `Escaped.designate_flags` — a designation changes neither shifts nor what is passed on.
-/

namespace PageBlocks.Charset

open PageBlocks.Text.Utf8 (replacementCharacter)

/-- The row or the column that a byte above `20` stands for. -/
def lowIndex (byte : UInt8) : Nat :=
  byte.toNat - 0x20

/-! ## Designations -/

/-- A set that a sequence can designate. -/
inductive Designated where
  | basic
  | roman
  | halfWidth
  | latin
  | greek
  | japaneseOld
  | japanese
  | japaneseMore
  | planeOne (edition : Edition)
  | planeTwo
  | korean
  | chinese
deriving DecidableEq, Repr

namespace Designated

/-- Does a character of the set take two bytes? -/
def isWide : Designated → Bool
  | basic | roman | halfWidth | latin | greek => false
  | _ => true

/-- The last byte of a sequence that designates the set. -/
def mark : Designated → UInt8
  | basic => 0x42
  | roman => 0x4A
  | halfWidth => 0x49
  | latin => 0x41
  | greek => 0x46
  | japaneseOld => 0x40
  | japanese => 0x42
  | japaneseMore => 0x44
  | planeOne .first => 0x4F
  | planeOne .revised => 0x51
  | planeTwo => 0x50
  | korean => 0x43
  | chinese => 0x41

/-- The character of a byte in a set of single bytes at the first or the second place. -/
def single? (set : Designated) (byte : UInt8) : Option (List Char) :=
  match set with
  | basic => some [basicCharacter byte]
  | roman => if isBasic byte then some [Japanese.romanCharacter byte] else none
  | halfWidth => (Japanese.halfWidth? (byte.toNat + 0x80)).map ([·])
  | _ => none

/-- The characters in a row and a column of a set of pairs. -/
def characters? (set : Designated) (row column : Nat) : Option (List Char) :=
  match set with
  | japaneseOld | japanese => (Grid.jisX0208.character? row column).map ([·])
  | japaneseMore => (Grid.jisX0212.character? row column).map ([·])
  | planeOne edition =>
    if row = 2 && column = 18 then some ['~'] else Japanese.planeOne? edition row column
  | planeTwo => (Japanese.planeTwo? .revised row column).map ([·])
  | korean => (Korean.character? row column).map ([·])
  | chinese => (Grid.gb2312.character? row column).map ([·])
  | _ => none

end Designated

/-- A set with escape sequences. -/
inductive Escaped where
  | japanese
  | japanese1
  | japanese2
  | japanese3
  | japanese2004
  | japaneseExt
  | korean
deriving DecidableEq, Repr

/-- The sets at the three places, and how bytes are read. -/
structure Escaped.State where
  first : Designated
  second : Designated
  third : Designated
  /-- Are bytes those of the second place? -/
  isShifted : Bool
  /-- Do bytes belong to a sequence that is passed on? -/
  isPassing : Bool
deriving DecidableEq, Repr

namespace Escaped

/-- What can be designated, beside the basic characters. -/
def designations : Escaped → List Designated
  | japanese => [.japanese, .roman, .japaneseOld]
  | japanese1 => [.japanese, .japaneseMore, .roman, .japaneseOld]
  | japanese2 =>
    [.japanese, .japaneseMore, .korean, .chinese, .roman, .japaneseOld, .latin, .greek]
  | japanese3 => [.japanese, .planeOne .first, .planeTwo]
  | japanese2004 => [.japanese, .planeOne .revised, .planeTwo]
  | japaneseExt => [.japanese, .japaneseMore, .roman, .halfWidth, .japaneseOld]
  | korean => [.korean]

/-- Are there shifts between the first two places? -/
def hasShifts (set : Escaped) : Bool :=
  set = korean

/-- Is there a third place? -/
def hasThird (set : Escaped) : Bool :=
  set = japanese2

/-- May sequences have a prefix for a revision? -/
def hasRevisions (set : Escaped) : Bool :=
  set ≠ korean

/-- The state at the start. -/
def start : State :=
  ⟨.basic, .basic, .basic, false, false⟩

/-! ## Sequences -/

/-- Is the byte the last one of a sequence? -/
def isLast (byte : UInt8) : Bool :=
  0x40 ≤ byte && byte ≤ 0x5A

/-- Does the byte after an escape begin a designation? -/
def opensDesignation (byte : UInt8) : Bool :=
  [0x28, 0x29, 0x24, 0x2E, 0x26].contains byte

/-- How far a sequence goes. -/
inductive Extent where
  | length (length : Nat)
  /-- The bytes end inside it. -/
  | unfinished
  /-- It is too long. -/
  | endless
deriving DecidableEq, Repr

/-- How far a sequence goes, searched from a place on. -/
def extentFrom (set : Escaped) (bytes : List UInt8) : (tries : Nat) → (place : Nat) → Extent
  | 0, _ => .endless
  | tries + 1, place =>
    if 16 ≤ place then .endless
    else match bytes[place]? with
      | none => .unfinished
      | some byte =>
        if isLast byte then .length (place + 1)
        else if set.hasRevisions && byte = 0x26 && bytes[place + 1]? = some 0x40 then
          extentFrom set bytes tries (place + 3)
        else extentFrom set bytes tries (place + 1)

/-- How far a sequence at the start of bytes goes. -/
def extent (set : Escaped) (bytes : List UInt8) : Extent :=
  extentFrom set bytes 16 1

/-- A place for a designated set. -/
inductive Place where
  | first
  | second
  | third
deriving DecidableEq, Repr

/-- The place, the last byte and the width that a sequence tells. -/
def readSequence? (set : Escaped) : List UInt8 → Option (Place × UInt8 × Bool)
  | [_, 0x24, mark] => some (.first, mark, true)
  | [_, 0x28, mark] => some (.first, mark, false)
  | [_, 0x29, mark] => some (.second, mark, false)
  | [_, 0x2E, mark] => if set.hasThird then some (.third, mark, false) else none
  | [_, 0x24, 0x28, mark] => some (.first, mark, true)
  | [_, 0x24, 0x29, mark] => some (.second, mark, true)
  | [_, _, _, 0x1B, 0x24, 0x42] => if set.hasRevisions then some (.first, 0x42, true) else none
  | _ => none

/-- The place and the set that a sequence designates. -/
def designation? (set : Escaped) (sequence : List UInt8) : Option (Place × Designated) :=
  (set.readSequence? sequence).bind fun (place, mark, isWide) =>
    ((.basic :: set.designations).find? fun designated =>
      designated.mark = mark && designated.isWide = isWide).map (place, ·)

/-- The state with a set at a place. -/
def designate (state : State) (designated : Designated) : Place → State
  | .first => { state with first := designated }
  | .second => { state with second := designated }
  | .third => { state with third := designated }

theorem designate_flags (state : State) (designated : Designated) (place : Place) :
    (designate state designated place).isShifted = state.isShifted ∧
      (designate state designated place).isPassing = state.isPassing := by
  cases place <;> exact ⟨rfl, rfl⟩

/-- Reads a sequence that begins a designation. -/
def sequencePiece (set : Escaped) (state : State) (bytes : List UInt8) : Piece State :=
  match set.extent bytes with
  | .unfinished => .replaced (bytes.length - 1) state
  | .endless => .replaced 0 state
  | .length length =>
    match set.designation? (bytes.take length) with
    | some (place, designated) => ⟨[], length - 1, designate state designated place⟩
    | none => .replaced (length - 1) state

/-! ## Bytes -/

/-- How the bytes of the third place are read, if there is a way. -/
def thirdReading? : Designated → Option (UInt8 → Option Char)
  | .basic => some fun byte => some (basicCharacter byte)
  | .latin => some fun byte => some (Char.ofNat (byte.toNat + 0x80))
  | .greek => some fun byte =>
    (SingleByte.characters? "iso8859_7").bind fun characters => characters[byte.toNat + 0x80]?.join
  | _ => none

/-- Reads a byte of the third place, which stands after a mark of two bytes. -/
def thirdPiece? (state : State) (byte : UInt8) : Option (Piece State) :=
  (thirdReading? state.third).map fun read =>
    match if isBasic byte then read byte else none with
    | some c => ⟨[c], 2, state⟩
    | none => .replaced 2 state

/-- Reads what an escape begins. -/
def escapePiece? (set : Escaped) (state : State) : List UInt8 → Option (Piece State)
  | [] => some (.replaced 0 state)
  | second :: rest =>
    if opensDesignation second then some (set.sequencePiece state (0x1B :: second :: rest))
    else if set.hasThird && second = 0x4E then
      match rest with
      | [] => some (.replaced 1 state)
      | third :: _ => thirdPiece? state third
    else some ⟨[Char.ofNat 0x1B], 0, { state with isPassing := true }⟩

/-- Reads a character of a designated set. -/
def plainPiece (state : State) (byte : UInt8) (rest : List UInt8) : Piece State :=
  let designated := if state.isShifted then state.second else state.first
  if designated.isWide then
    match rest with
    | [] => .replaced 0 state
    | second :: _ =>
      match designated.characters? (lowIndex byte) (lowIndex second) with
      | some text => ⟨text, 1, state⟩
      | none => .replaced 1 state
  else .ofOption 0 state (designated.single? byte)

/-- Reads the piece at the start of bytes. -/
def piece? (set : Escaped) (state : State) (byte : UInt8) (rest : List UInt8) :
    Option (Piece State) :=
  if state.isPassing then
    some ⟨[Char.ofNat byte.toNat], 0, { state with isPassing := !isLast byte }⟩
  else if byte = 0x1B then set.escapePiece? state rest
  else if set.hasShifts && byte = 0x0F then some ⟨[], 0, { state with isShifted := false }⟩
  else if set.hasShifts && byte = 0x0E then some ⟨[], 0, { state with isShifted := true }⟩
  else if byte = 0x0A then some ⟨['\n'], 0, { state with isShifted := false }⟩
  else if byte < 0x20 then some ⟨[basicCharacter byte], 0, state⟩
  else if isBasic byte then some (plainPiece state byte rest)
  else some (.replaced 0 state)

theorem piece?_high {set : Escaped} {state : State} {byte : UInt8} (rest : List UInt8)
    (notPassing : state.isPassing = false) (high : 0x80 ≤ byte) :
    set.piece? state byte rest = some (.replaced 0 state) := by
  have apart : byte ≠ 0x1B ∧ byte ≠ 0x0F ∧ byte ≠ 0x0E ∧ byte ≠ 0x0A := by
    refine ⟨?_, ?_, ?_, ?_⟩ <;> rintro rfl <;> exact absurd high (by decide)
  have above : ¬ byte < 0x20 ∧ isBasic byte = false := by
    simp only [isBasic, decide_eq_false_iff_not, UInt8.lt_iff_toNat_lt, UInt8.le_iff_toNat_le] at *
    change 128 ≤ byte.toNat at high
    change ¬ byte.toNat < 32 ∧ ¬ byte.toNat < 128
    omega
  simp [piece?, notPassing, apart, above]

/-- The reader of a set. -/
def reader (set : Escaped) : Reader State :=
  ⟨start, set.piece?, fun _ => []⟩

end Escaped

/-! ## Chinese between marks -/

namespace Tilde

/-- Reads a piece; the state tells whether bytes stand for the characters of a grid. -/
def piece (isInGrid : Bool) (byte : UInt8) (rest : List UInt8) : Piece Bool :=
  if byte = 0x7E then
    match rest with
    | [] => .replaced 0 isInGrid
    | second :: _ =>
      if !isInGrid && second = 0x7E then ⟨['~'], 1, false⟩
      else if !isInGrid && second = 0x7B then ⟨[], 1, true⟩
      else if !isInGrid && second = 0x0A then ⟨[], 1, false⟩
      else if isInGrid && second = 0x7D then ⟨[], 1, false⟩
      else .replaced 0 isInGrid
  else if !isBasic byte then .replaced 0 isInGrid
  else if isInGrid then
    match rest with
    | [] => .replaced 0 isInGrid
    | second :: _ =>
      .ofOption 1 isInGrid (Designated.chinese.characters? (lowIndex byte) (lowIndex second))
  else ⟨[basicCharacter byte], 0, isInGrid⟩

/-- The reader of text with tildes as marks. -/
def reader : Reader Bool :=
  .steady false piece fun _ => []

end Tilde

end PageBlocks.Charset
