import PageBlocks.Text.Blank
import PageBlocks.Text.Case
/-!
# Regular expressions

The expressions by which the text of cells is changed.  Each part carries the options that were in force
where it was written, so that an expression means the same wherever it is put.

## Main results

* `CharTest.admits_negated` — a negated test admits what the plain test does not.
-/

namespace PageBlocks

open PageBlocks.Text

namespace Regex

/-! ## Single characters -/

/-- How letters that differ in case compare. -/
inductive LetterCase where
  | exact
  /-- Capitals and small letters of all scripts are alike. -/
  | folded
  /-- Capitals and small letters of ASCII are alike. -/
  | asciiFolded
deriving DecidableEq, Repr

/-- The member that stands for all characters that compare alike. -/
def LetterCase.representative (letters : LetterCase) (c : Char) : Char :=
  match letters with
  | exact => c
  | folded => foldChar c
  | asciiFolded => asciiLowerChar c

/-- A class of characters. -/
inductive Category where
  | digit
  | space
  | word
deriving DecidableEq, Repr

/-- Is a character in a class?  With `asciiOnly` no character beyond ASCII is. -/
def Category.contains (category : Category) (asciiOnly : Bool) (c : Char) : Bool :=
  (!asciiOnly || isAscii c) &&
    match category with
    | digit => isDecimal c
    | space => isBlank c && !(asciiOnly && 0x1C ≤ c.toNat && c.toNat ≤ 0x1F)
    | word => isWordChar c

/-- A part of a set of characters. -/
inductive SetItem where
  | char (code : Nat)
  | range (first last : Nat)
  | category (kind : Category) (negated asciiOnly : Bool)
deriving DecidableEq, Repr

/-- The small letter of a character, as far as case is set aside. -/
def LetterCase.small (letters : LetterCase) (c : Char) : Char :=
  match letters with
  | exact => c
  | folded => singleLower c
  | asciiFolded => asciiLowerChar c

/-- Is a character that compares like `c` between two others? -/
def LetterCase.meetsRange (letters : LetterCase) (first last : Nat) (c : Char) : Bool :=
  (first ≤ c.toNat && c.toNat ≤ last) ||
    (letters ≠ .exact && (List.range (last + 1 - first)).any fun step =>
      letters.representative (Char.ofNat (first + step)) = letters.representative c)

/-- Is a character in a part of a set? -/
def SetItem.contains (letters : LetterCase) (c : Char) : SetItem → Bool
  | char code =>
    code = c.toNat ||
      ((Char.ofNat code).toNat = code &&
        letters.representative (Char.ofNat code) = letters.representative c)
  | range first last => letters.meetsRange first last c
  | category kind negated asciiOnly =>
    kind.contains asciiOnly (letters.small c) != negated

/-- A condition on one character. -/
structure CharTest where
  items : List SetItem
  negated : Bool
  letters : LetterCase
deriving DecidableEq, Repr

/-- Does a character meet the condition? -/
def CharTest.admits (test : CharTest) (c : Char) : Bool :=
  test.items.any (SetItem.contains test.letters c) != test.negated

theorem CharTest.admits_negated (items : List SetItem) (letters : LetterCase) (c : Char) :
    CharTest.admits ⟨items, true, letters⟩ c = !CharTest.admits ⟨items, false, letters⟩ c := by
  simp [admits]

/-! ## Places -/

/-- A condition on a place between characters. -/
inductive Anchor where
  | textStart
  | lineStart
  /-- The end of the text, or the line break that ends it. -/
  | textEnd
  | lineEnd
  | veryEnd
  | wordEdge (asciiOnly : Bool)
  | noWordEdge (asciiOnly : Bool)
deriving DecidableEq, Repr

/-- Which of its numbers of turns a repetition tries first. -/
inductive Greed where
  | greedy
  | reluctant
  /-- As many turns as there are, and no others. -/
  | possessive
deriving DecidableEq, Repr

end Regex

/-- A regular expression. -/
inductive Regex where
  | empty
  | one (test : Regex.CharTest)
  | place (anchor : Regex.Anchor)
  | seq (first second : Regex)
  | either (first second : Regex)
  /-- Remembers what the body covers under a number. -/
  | group (number : Nat) (body : Regex)
  /-- What a group covers once more. -/
  | again (number : Nat) (letters : Regex.LetterCase)
  | turns (least : Nat) (most : Option Nat) (greed : Regex.Greed) (body : Regex)
  | ahead (negated : Bool) (body : Regex)
  /-- The body covers the `width` characters before this place. -/
  | behind (negated : Bool) (width : Nat) (body : Regex)
  /-- Only the first way to match the body counts. -/
  | firstWay (body : Regex)
  /-- One of two ways, by whether a group covers anything. -/
  | ifGroup (number : Nat) (yes no : Regex)
deriving DecidableEq, Repr

namespace Regex

/-- Expressions in a row. -/
def sequence : List Regex → Regex
  | [] => empty
  | [part] => part
  | part :: rest => seq part (sequence rest)

/-- Alternatives in a row. -/
def alternatives : List Regex → Regex
  | [] => empty
  | [part] => part
  | part :: rest => either part (alternatives rest)

/-! ## Widths -/

/-- The least and the greatest number of characters that can be covered. -/
abbrev Width := Nat × Nat

/-- No width is taken to be greater. -/
def maxWidth : Nat := Nat.pow 2 64

/-- What no number of turns may reach. -/
def maxTurns : Nat := 4294967295

/-- The width of an expression, given that of the groups it refers to. -/
def width (groups : Nat → Width) : Regex → Width
  | empty | place _ | ahead .. | behind .. => (0, 0)
  | one _ => (1, 1)
  | seq first second =>
    let (low, high) := first.width groups
    let (lower, higher) := second.width groups
    (min (low + lower) maxWidth, min (high + higher) maxWidth)
  | either first second =>
    let (low, high) := first.width groups
    let (lower, higher) := second.width groups
    (min low lower, max high higher)
  | group _ body | firstWay body => body.width groups
  | again number _ => groups number
  | turns least most _ body =>
    let (low, high) := body.width groups
    (min (low * least) maxWidth,
      match most with
      | some most => min (high * most) maxWidth
      | none => if high = 0 then 0 else maxWidth)
  | ifGroup _ yes no =>
    let (low, high) := yes.width groups
    let (lower, higher) := no.width groups
    (min low lower, max high higher)

end Regex

end PageBlocks
