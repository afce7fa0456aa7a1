import PageBlocks.Regex.Basic
/-!
# Matching regular expressions

An expression is matched by trying its ways one after another, in the order in which it tells them,
until the rest of the expression can be matched too.  That rest is given as a continuation, so that
a way that leads nowhere later is left again.

Each turn of a repetition beyond the least number covers something, so the length of the text
bounds how many turns there are.

## Main results

* `run_either` — of two alternatives the second one counts where the first one fails.
-/

namespace PageBlocks.Regex

open PageBlocks.Text

/-- How far a match has come, and what its groups cover. -/
structure Progress where
  position : Nat
  groups : List (Nat × Nat × Nat)
deriving DecidableEq, Repr

namespace Progress

/-- What a group covers: its start and its end. -/
def group? (progress : Progress) (number : Nat) : Option (Nat × Nat) :=
  progress.groups.lookup number

/-- Remembers what a group covers. -/
def remember (progress : Progress) (number start : Nat) : Progress :=
  { progress with groups :=
      (number, start, progress.position) :: progress.groups.filter (·.1 ≠ number) }

end Progress

/-- What the rest of an expression makes of a match so far. -/
abbrev Rest := Progress → Option Progress

/-- The characters of a part of a text. -/
def slice (text : Array Char) (start stop : Nat) : List Char :=
  (text.extract start stop).toList

/-- Is the character before or after a place part of a word? -/
def isWordAt (text : Array Char) (asciiOnly : Bool) (position : Option Nat) : Bool :=
  ((position.bind (text[·]?)).map (Category.word.contains asciiOnly)).getD false

/-- Does a place lie between a part of a word and something else? -/
def isWordEdge (text : Array Char) (asciiOnly : Bool) (position : Nat) : Bool :=
  isWordAt text asciiOnly (if position = 0 then none else some (position - 1)) !=
    isWordAt text asciiOnly (some position)

/-- Does a place meet a condition? -/
def Anchor.holds (text : Array Char) (position : Nat) : Anchor → Bool
  | textStart => position = 0
  | lineStart => position = 0 || text[position - 1]? = some '\n'
  | textEnd =>
    position = text.size || (position + 1 = text.size && text[position]? = some '\n')
  | lineEnd => position = text.size || text[position]? = some '\n'
  | veryEnd => position = text.size
  | wordEdge asciiOnly => isWordEdge text asciiOnly position
  | noWordEdge asciiOnly => text.size ≠ 0 && !isWordEdge text asciiOnly position

/-- Takes turns at a body, where `turn` matches it once.  No turn begins where the last one began.
The fuel bounds the number of turns. -/
def takeTurns (turn : Progress → Rest → Option Progress) (least : Nat) (most : Option Nat)
    (isGreedy : Bool) :
    (fuel : Nat) → (count : Nat) → (lastStart : Option Nat) → Progress → Rest → Option Progress
  | 0, _, _, progress, rest => rest progress
  | fuel + 1, count, lastStart, progress, rest =>
    if count < least then
      turn progress fun next =>
        takeTurns turn least most isGreedy fuel (count + 1) lastStart next rest
    else
      let allowed := most.all (count < ·) && lastStart ≠ some progress.position
      let further : Unit → Option Progress := fun _ =>
        if allowed then
          turn progress fun next =>
            takeTurns turn least most isGreedy fuel (count + 1) (some progress.position) next rest
        else none
      if isGreedy then
        match further () with
        | some found => some found
        | none => rest progress
      else
        match rest progress with
        | some found => some found
        | none => further ()

/-- Takes as many turns as there are, where `turn` matches a body once in its first way. -/
def takeAllTurns (turn : Progress → Option Progress) (least : Nat) (most : Option Nat) :
    (fuel : Nat) → (count : Nat) → Progress → Option Progress
  | 0, _, progress => some progress
  | fuel + 1, count, progress =>
    if count < least then
      match turn progress with
      | some next => takeAllTurns turn least most fuel (count + 1) next
      | none => none
    else if most.all (count < ·) then
      match turn progress with
      | some next =>
        if next.position = progress.position then some next
        else takeAllTurns turn least most fuel (count + 1) next
      | none => some progress
    else some progress

/-- Matches an expression and then the rest. -/
def run (text : Array Char) : Regex → Progress → Rest → Option Progress
  | empty, progress, rest => rest progress
  | one test, progress, rest =>
    match text[progress.position]? with
    | some c =>
      if test.admits c then rest { progress with position := progress.position + 1 } else none
    | none => none
  | place anchor, progress, rest =>
    if anchor.holds text progress.position then rest progress else none
  | seq first second, progress, rest =>
    run text first progress fun next => run text second next rest
  | either first second, progress, rest =>
    match run text first progress rest with
    | some found => some found
    | none => run text second progress rest
  | group number body, progress, rest =>
    run text body progress fun next => rest (next.remember number progress.position)
  | again number letters, progress, rest =>
    match progress.group? number with
    | some (start, stop) =>
      let covered := slice text start stop
      let here := slice text progress.position (progress.position + covered.length)
      if here.map letters.small = covered.map letters.small then
        rest { progress with position := progress.position + covered.length }
      else none
    | none => none
  | turns least most greed body, progress, rest =>
    let fuel := least + (text.size - progress.position) + 2
    match greed with
    | .possessive =>
      match takeAllTurns (fun start => run text body start some) least most fuel 0 progress with
      | some next => rest next
      | none => none
    | _ =>
      takeTurns (fun start after => run text body start after) least most (greed = .greedy) fuel 0
        none progress rest
  | ahead negated body, progress, rest =>
    match run text body progress some with
    | some found =>
      if negated then none else rest { found with position := progress.position }
    | none => if negated then rest progress else none
  | behind negated width body, progress, rest =>
    let found :=
      if width ≤ progress.position then
        run text body { progress with position := progress.position - width } some
      else none
    match found with
    | some found =>
      if negated then none else rest { found with position := progress.position }
    | none => if negated then rest progress else none
  | firstWay body, progress, rest =>
    match run text body progress some with
    | some next => rest next
    | none => none
  | ifGroup number yes no, progress, rest =>
    if (progress.group? number).isSome then run text yes progress rest
    else run text no progress rest

theorem run_either (text : Array Char) (first second : Regex) (progress : Progress) (rest : Rest) :
    run text (either first second) progress rest =
      (run text first progress rest).or (run text second progress rest) := by
  simp only [run]
  cases run text first progress rest <;> rfl

/-- The first match in a text: where it starts, and what it covers. -/
def search? (text : Array Char) (regex : Regex) : Option (Nat × Progress) :=
  (List.range (text.size + 1)).findSome? fun start =>
    (run text regex ⟨start, []⟩ some).map fun found => (start, found)

end PageBlocks.Regex
