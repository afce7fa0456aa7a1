import PageBlocks.Charset.Grid
import PageBlocks.Text.Utf8
/-!
# Text in groups of bytes

In many character sets a character takes as many bytes as its first byte asks for.  A byte that
starts no character is replaced alone, and what is left of a character that the bytes end in is
replaced as a whole.

In some sets a piece of the bytes stands for several characters, or what it stands for depends on
what was read before it.  A reader goes through the bytes from state to state, piece by piece.  It
replaces what it cannot read; only a reader that has lost its state breaks down.

## Main results

* `decodeGroups_cons_of_single` — a byte that is a character for itself is read for itself.
* `decodeGroups_basic` — sets that keep the basic characters read text of them as it is.
* `Reader.decodeFrom_drop` — bytes inside a piece are passed over.
* `Reader.decodeFrom_cons` — the text starts with that of its first piece.
-/

namespace PageBlocks.Charset

open PageBlocks.Text.Utf8 (replacementCharacter)

/-- What bytes start with. -/
inductive Group where
  /-- A character that takes the given number of bytes. -/
  | character (c : Char) (length : Nat)
  /-- The first byte starts no character. -/
  | unreadable
  /-- The bytes end inside a character. -/
  | unfinished
deriving DecidableEq, Repr

namespace Group

/-- A character of one byte, if there is one. -/
def ofOption (length : Nat) : Option Char → Group
  | some c => character c length
  | none => unreadable

end Group

/-- The characters of bytes, where the first `inside` bytes belong to a character that was read
already. -/
def decodeGroups (read : UInt8 → List UInt8 → Group) : (inside : Nat) → List UInt8 → List Char
  | _, [] => []
  | inside + 1, _ :: rest => decodeGroups read inside rest
  | 0, byte :: rest =>
    match read byte rest with
    | .character c length => c :: decodeGroups read (length - 1) rest
    | .unreadable => replacementCharacter :: decodeGroups read 0 rest
    | .unfinished => [replacementCharacter]

theorem decodeGroups_cons_of_single {read : UInt8 → List UInt8 → Group} {byte : UInt8}
    {rest : List UInt8} {c : Char} (h : read byte rest = .character c 1) :
    decodeGroups read 0 (byte :: rest) = c :: decodeGroups read 0 rest := by
  simp [decodeGroups, h]

/-! ## Pairs -/

/-- The character of a grid for two bytes that both are above `A0`. -/
def highPair? (grid : Grid) (first second : Nat) : Option Char :=
  grid.character? (first - 0xA0) (second - 0xA0)

/-- Reads two bytes. -/
def readPair (character? : Nat → Nat → Option Char) (first : UInt8) : List UInt8 → Group
  | second :: _ => .ofOption 2 (character? first.toNat second.toNat)
  | [] => .unfinished

/-! ## Basic characters -/

/-- Is a byte one of the basic characters? -/
def isBasic (byte : UInt8) : Bool :=
  byte < 0x80

/-- The basic character that a byte is. -/
def basicCharacter (byte : UInt8) : Char :=
  Char.ofNat byte.toNat

theorem decodeGroups_basic {read : UInt8 → List UInt8 → Group}
    (keeps : ∀ byte rest, isBasic byte = true →
      read byte rest = .character (basicCharacter byte) 1)
    {bytes : List UInt8} (h : ∀ byte ∈ bytes, isBasic byte = true) :
    decodeGroups read 0 bytes = bytes.map basicCharacter := by
  induction bytes with
  | nil => rfl
  | cons byte rest ih =>
    rw [List.forall_mem_cons] at h
    rw [decodeGroups_cons_of_single (keeps byte rest h.1), ih h.2, List.map_cons]

/-! ## Pieces -/

/-- What bytes start with, in a state. -/
structure Piece (σ : Type) where
  text : List Char
  /-- How many bytes belong to it after the first one. -/
  behind : Nat
  /-- The state that it leaves. -/
  state : σ

namespace Piece

variable {σ : Type}

/-- Bytes that cannot be read. -/
def replaced (behind : Nat) (state : σ) : Piece σ :=
  ⟨[replacementCharacter], behind, state⟩

/-- A piece for some text; without one its first byte cannot be read. -/
def ofOption (behind : Nat) (state : σ) : Option (List Char) → Piece σ
  | some text => ⟨text, behind, state⟩
  | none => replaced 0 state

theorem ofOption_state (behind : Nat) (state : σ) (text : Option (List Char)) :
    (ofOption behind state text).state = state := by
  cases text <;> rfl

end Piece

/-- A way to read bytes in pieces. -/
structure Reader (σ : Type) where
  start : σ
  /-- The piece at the start of bytes, or nothing when the reader breaks down. -/
  piece? : σ → UInt8 → List UInt8 → Option (Piece σ)
  /-- What is written where the bytes end. -/
  ending : σ → List Char

namespace Reader

variable {σ : Type} (reader : Reader σ)

/-- A reader that never breaks down. -/
def steady (start : σ) (piece : σ → UInt8 → List UInt8 → Piece σ)
    (ending : σ → List Char) : Reader σ :=
  ⟨start, fun state byte rest => some (piece state byte rest), ending⟩

/-- The text of bytes from a state on, where the first `inside` bytes were read already. -/
def decodeFrom (state : σ) : (inside : Nat) → List UInt8 → Option (List Char)
  | _, [] => some (reader.ending state)
  | inside + 1, _ :: rest => decodeFrom state inside rest
  | 0, byte :: rest =>
    match reader.piece? state byte rest with
    | none => none
    | some piece => (decodeFrom piece.state piece.behind rest).map (piece.text ++ ·)

/-- The text that bytes write. -/
def decode (bytes : List UInt8) : Option (List Char) :=
  reader.decodeFrom reader.start 0 bytes

theorem decodeFrom_drop (state : σ) (inside : Nat) (bytes : List UInt8) :
    reader.decodeFrom state inside bytes = reader.decodeFrom state 0 (bytes.drop inside) := by
  induction inside generalizing bytes with
  | zero => rfl
  | succ inside ih =>
    cases bytes with
    | nil => rfl
    | cons byte rest => simpa only [decodeFrom, List.drop_succ_cons] using ih rest

theorem decodeFrom_cons {state : σ} {byte : UInt8} {rest : List UInt8} {piece : Piece σ}
    (h : reader.piece? state byte rest = some piece) :
    reader.decodeFrom state 0 (byte :: rest) =
      (reader.decodeFrom piece.state 0 (rest.drop piece.behind)).map (piece.text ++ ·) := by
  rw [decodeFrom, h, ← decodeFrom_drop]

end Reader

end PageBlocks.Charset
