import PageBlocks.Regex.Match
import PageBlocks.Regex.Reader
/-!
# Replacing what an expression matches

A replacement is text in which backslashes refer to what the groups of the match cover.

## Main results

* `replaceFirst_of_malformed` — an expression that cannot be read replaces nothing.
-/

namespace PageBlocks.Regex

open PageBlocks.Text

/-- Why nothing can be replaced. -/
inductive ReplaceFault where
  | expression (fault : Fault)
  /-- The replacement cannot be read, or asks for a group by a number that there is not. -/
  | malformedReplacement
  /-- The replacement asks for a group by a name that there is not. -/
  | unknownName (name : List Char)
deriving DecidableEq, Repr

/-- A part of a replacement. -/
inductive ReplacementPart where
  | char (c : Char)
  /-- What a group covers; the group of number zero covers all of the match. -/
  | group (number : Nat)
deriving DecidableEq, Repr

/-- The text that takes the place of a match. -/
abbrev Replacement := List ReplacementPart

namespace Replacement

/-- A reference to a group, if there is one of that number. -/
def groupPart (expression : Expression) (number : Nat) : Except ReplaceFault ReplacementPart :=
  if number ≤ expression.groupCount then .ok (.group number) else .error .malformedReplacement

/-- A reference to a group by its name or number. -/
def namedPart (expression : Expression) (name : List Char) :
    Except ReplaceFault ReplacementPart :=
  if isIdentifier name then
    match expression.names.lookup name with
    | some number => groupPart expression number
    | none => .error (.unknownName name)
  else
    match groupNumber? name with
    | some number => groupPart expression number
    | none => .error .malformedReplacement

/-- What a backslash and a digit begin: the code of a character, or a reference to a group. -/
def digitPart (expression : Expression) (first : Nat) (rest : List Token) :
    Except ReplaceFault (ReplacementPart × List Token) :=
  match takeDigits 8 2 rest, takeDigits 10 1 rest with
  | ([second, third], rest), _ =>
    if first < 8 then
      let code := numberOf 8 [first, second, third]
      if 0xFF < code then .error .malformedReplacement else .ok (.char (Char.ofNat code), rest)
    else (groupPart expression (first * 10 + second)).map fun part =>
      (part, .char (Char.ofNat (0x30 + third)) :: rest)
  | _, (digits, rest) =>
    (groupPart expression (numberOf 10 (first :: digits))).map fun part => (part, rest)

/-- What a backslash and another character begin. -/
def readEscape (expression : Expression) (c : Char) (rest : List Token) :
    Except ReplaceFault (Replacement × List Token) :=
  if c = 'g' then
    match rest with
    | .char '<' :: rest =>
      match nameUntil? '>' rest with
      | some (name, rest) =>
        if rest.head? = some .broken then .error .malformedReplacement
        else (namedPart expression name).map fun part => ([part], rest)
      | none => .error .malformedReplacement
    | _ => .error .malformedReplacement
  else if c = '0' then
    let (digits, rest) := takeDigits 8 2 rest
    .ok ([.char (Char.ofNat (numberOf 8 digits % 256))], rest)
  else if isAsciiDigit c then
    (digitPart expression (c.toNat - 0x30) rest).map fun (part, rest) => ([part], rest)
  else match controlCode? c with
    | some code => .ok ([.char (Char.ofNat code)], rest)
    | none =>
      if isAsciiLetter c then .error .malformedReplacement
      else .ok ([.char '\\', .char c], rest)

/-- The parts that tokens write.  The fuel bounds the number of tokens. -/
def readTokens (expression : Expression) :
    (fuel : Nat) → List Token → Except ReplaceFault Replacement
  | 0, _ | _, [] => .ok []
  | _, .broken :: _ => .error .malformedReplacement
  | fuel + 1, .char c :: rest => do
    .ok (.char c :: (← readTokens expression fuel rest))
  | fuel + 1, .escape c :: rest => do
    let (parts, rest) ← readEscape expression c rest
    .ok (parts ++ (← readTokens expression fuel rest))

/-- The replacement that a text writes for an expression. -/
def parse (expression : Expression) (text : List Char) : Except ReplaceFault Replacement :=
  readTokens expression (text.length + 1) (tokens text)

/-- The text that takes the place of a match which starts at a given position. -/
def expand (text : Array Char) (start : Nat) (found : Progress) (replacement : Replacement) :
    List Char :=
  replacement.flatMap fun part =>
    match part with
    | .char c => [c]
    | .group 0 => slice text start found.position
    | .group number =>
      match found.group? number with
      | some (first, last) => slice text first last
      | none => []

end Replacement

/-- Replaces the first match of an expression in a text. -/
def replaceFirst (pattern replacement text : List Char) : Except ReplaceFault (List Char) :=
  match parse pattern with
  | .error fault => .error (.expression fault)
  | .ok expression => do
    let replacement ← Replacement.parse expression replacement
    let chars := text.toArray
    match search? chars expression.regex with
    | none => .ok text
    | some (start, found) =>
      .ok (slice chars 0 start ++ Replacement.expand chars start found replacement ++
        slice chars found.position chars.size)

theorem replaceFirst_of_malformed {pattern : List Char} {fault : Fault}
    (h : parse pattern = .error fault) (replacement text : List Char) :
    replaceFirst pattern replacement text = .error (.expression fault) := by
  simp [replaceFirst, h]

end PageBlocks.Regex
