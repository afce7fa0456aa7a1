import PageBlocks.Regex.Basic
import PageBlocks.Json.Reader
import PageBlocks.Text.Accent
/-!
# Reading regular expressions

The written form of an expression is read with a stack of levels, one for each parenthesis that is
open.  A closing parenthesis turns the innermost level into a part of the level around it.
-/

namespace PageBlocks.Regex

open PageBlocks.Text

/-- Why a text is no expression. -/
inductive Fault where
  | malformed
  /-- A number of turns is beyond all bounds. -/
  | tooManyTurns
  /-- The expression asks both for ASCII and for all scripts. -/
  | conflictingOptions
deriving DecidableEq, Repr

/-- An expression with its groups. -/
structure Expression where
  regex : Regex
  groupCount : Nat
  names : List (List Char × Nat)
deriving DecidableEq, Repr

/-! ## Tokens -/

/-- A character, or a character after a backslash. -/
inductive Token where
  | char (c : Char)
  | escape (c : Char)
  /-- A backslash that nothing follows. -/
  | broken
deriving DecidableEq, Repr

/-- The tokens of a text. -/
def tokens : List Char → List Token
  | [] => []
  | ['\\'] => [.broken]
  | '\\' :: c :: rest => .escape c :: tokens rest
  | c :: rest => .char c :: tokens rest

/-- The characters of a token. -/
def Token.text : Token → List Char
  | char c => [c]
  | escape c => ['\\', c]
  | broken => ['\\']

/-- The digits of a base at the start of some tokens, at most `count` of them. -/
def takeDigits (base : Nat) : (count : Nat) → List Token → List Nat × List Token
  | count + 1, .char c :: rest =>
    match (Json.hexDigit? c).filter (· < base) with
    | some digit =>
      let (digits, rest) := takeDigits base count rest
      (digit :: digits, rest)
    | none => ([], .char c :: rest)
  | _, rest => ([], rest)

/-- The number that digits of a base write. -/
def numberOf (base : Nat) (digits : List Nat) : Nat :=
  digits.foldl (fun number digit => number * base + digit) 0

/-- The number of exactly `count` hexadecimal digits. -/
def hexNumber? (count : Nat) (rest : List Token) : Option (Nat × List Token) :=
  let (digits, rest) := takeDigits 16 count rest
  if digits.length = count then some (numberOf 16 digits, rest) else none

/-- The text up to a closing character, which is not empty. -/
def textUntil? (closing : Char) : List Token → Option (List Char × List Token)
  | [] => none
  | token :: rest =>
    if token = .char closing then some ([], rest)
    else (textUntil? closing rest).map fun (text, rest) => (token.text ++ text, rest)

/-- A name or number up to a closing character. -/
def nameUntil? (closing : Char) (rest : List Token) : Option (List Char × List Token) :=
  (textUntil? closing rest).filter fun (text, _) => !text.isEmpty

/-- Is the text a name? -/
def isIdentifier : List Char → Bool
  | [] => false
  | c :: rest =>
    (isLetter c || c = '_') &&
      rest.all fun c => isLetter c || c = '_' || isDecimal c || inRuns markRuns c

/-- Drops a sign in front of a number. -/
def dropSign : List Char → List Char
  | '+' :: rest => rest
  | rest => rest

/-- The value of a decimal number in which single underscores may stand between digits. -/
def groupedNumber? : (started : Bool) → Nat → List Char → Option Nat
  | started, number, [] => if started then some number else none
  | true, number, '_' :: c :: rest => do
    groupedNumber? true (number * 10 + (← decimalValue? c)) rest
  | _, number, c :: rest => do
    groupedNumber? true (number * 10 + (← decimalValue? c)) rest

/-- The number of a group, with blanks around it and a sign in front. -/
def groupNumber? (text : List Char) : Option Nat :=
  match trim text with
  | '-' :: rest => (groupedNumber? false 0 rest).filter (· = 0)
  | text => groupedNumber? false 0 (dropSign text)

/-- No group has such a number. -/
def maxGroups : Nat := 1073741823

/-- The code of a control character that an escape stands for. -/
def controlCode? (c : Char) : Option Nat :=
  match c with
  | 'a' => some 7
  | 'b' => some 8
  | 'f' => some 12
  | 'n' => some 10
  | 'r' => some 13
  | 't' => some 9
  | 'v' => some 11
  | '\\' => some 0x5C
  | _ => none

/-- The class of characters that an escape stands for, and whether it is negated. -/
def category? (c : Char) : Option (Category × Bool) :=
  match c with
  | 'd' => some (.digit, false)
  | 'D' => some (.digit, true)
  | 's' => some (.space, false)
  | 'S' => some (.space, true)
  | 'w' => some (.word, false)
  | 'W' => some (.word, true)
  | _ => none

/-- The code of a character that is written in hexadecimal digits. -/
def hexEscape? (c : Char) (rest : List Token) : Option (Nat × List Token) :=
  match c with
  | 'x' => hexNumber? 2 rest
  | 'u' => hexNumber? 4 rest
  | 'U' => (hexNumber? 8 rest).filter fun (code, _) => code ≤ 0x10FFFF
  | _ => none

/-! ## Options -/

/-- What is in force while a part of an expression is read. -/
structure Options where
  ignoresCase : Bool
  eachLine : Bool
  dotAll : Bool
  verbose : Bool
  asciiOnly : Bool
deriving DecidableEq, Repr

namespace Options

/-- Nothing in particular is asked for. -/
def standard : Options := ⟨false, false, false, false, false⟩

/-- Switches an option on or off. -/
def switch (value : Bool) (options : Options) (letter : Char) : Options :=
  match letter with
  | 'i' => { options with ignoresCase := value }
  | 'm' => { options with eachLine := value }
  | 's' => { options with dotAll := value }
  | 'x' => { options with verbose := value }
  | 'a' => { options with asciiOnly := value }
  | 'u' => { options with asciiOnly := !value }
  | _ => options

/-- How letters compare. -/
def letters (options : Options) : LetterCase :=
  if !options.ignoresCase then .exact
  else if options.asciiOnly then .asciiFolded
  else .folded

/-- A condition on one character, as it is meant here. -/
def oneOf (options : Options) (negated : Bool) (items : List SetItem) : Regex :=
  .one ⟨items, negated, options.letters⟩

end Options

/-- The letters of options. -/
def optionLetters : List Char := ['i', 'm', 's', 'x', 'a', 'u']

/-- Option letters at the start of some tokens. -/
def takeOptionLetters : List Token → List Char × List Token
  | .char c :: rest =>
    if optionLetters.contains c then
      let (letters, rest) := takeOptionLetters rest
      (c :: letters, rest)
    else ([], .char c :: rest)
  | rest => ([], rest)

/-- What the options in a parenthesis hold for. -/
inductive OptionScope where
  | everything (on : List Char)
  | inside (on off : List Char)

/-- The options in a parenthesis, and what they hold for. -/
def readOptions? (rest : List Token) : Option (OptionScope × List Token) :=
  let (on, rest) := takeOptionLetters rest
  if on.contains 'a' && on.contains 'u' then none
  else match rest with
    | .char ')' :: rest => if on.isEmpty then none else some (.everything on, rest)
    | .char ':' :: rest => if on.isEmpty then none else some (.inside on [], rest)
    | .char '-' :: rest =>
      match takeOptionLetters rest with
      | (off, .char ':' :: rest) =>
        if off.isEmpty || off.contains 'a' || off.contains 'u' || on.any off.contains then none
        else some (.inside on off, rest)
      | _ => none
    | _ => none

/-! ## Sets of characters -/

/-- A member of a set of characters. -/
def readMember? (options : Options) : List Token → Option (SetItem × List Token)
  | [] | .broken :: _ => none
  | .char c :: rest => some (.char c.toNat, rest)
  | .escape c :: rest =>
    match controlCode? c, category? c with
    | some code, _ => some (.char code, rest)
    | none, some (kind, negated) => some (.category kind negated options.asciiOnly, rest)
    | none, none =>
      if c = 'x' || c = 'u' || c = 'U' then
        (hexEscape? c rest).map fun (code, rest) => (.char code, rest)
      else if '0' ≤ c && c ≤ '7' then
        let (digits, rest) := takeDigits 8 2 rest
        let code := numberOf 8 ((c.toNat - 0x30) :: digits)
        if 0xFF < code then none else some (.char code, rest)
      else if isAsciiLetter c || c = '8' || c = '9' then none
      else some (.char c.toNat, rest)

/-- The members of a set up to its closing bracket, which is a member itself where it stands
first. -/
def readMembers? (options : Options) :
    (fuel : Nat) → (seen : List SetItem) → List Token → Option (List SetItem × List Token)
  | 0, _, _ => none
  | fuel + 1, seen, rest =>
    if rest.head? = some (.char ']') && !seen.isEmpty then some (seen.reverse, rest.tail)
    else do
      let (item, rest) ← readMember? options rest
      match rest with
      | .char '-' :: .char ']' :: rest => some ((SetItem.char '-'.toNat :: item :: seen).reverse, rest)
      | .char '-' :: rest =>
        let (last, rest) ← readMember? options rest
        match item, last with
        | .char first, .char last =>
          if last < first then none
          else readMembers? options fuel (.range first last :: seen) rest
        | _, _ => none
      | rest => readMembers? options fuel (item :: seen) rest

/-- A set of characters after its opening bracket. -/
def readSet? (options : Options) (rest : List Token) : Option (Regex × List Token) := do
  let (negated, rest) :=
    match rest with
    | .char '^' :: rest => (true, rest)
    | rest => (false, rest)
  let (items, rest) ← readMembers? options (rest.length + 1) [] rest
  some (options.oneOf negated items, rest)

/-! ## Repetitions -/

/-- Decimal digits at the start of some tokens. -/
def takeDecimals : List Token → List Char × List Token
  | .char c :: rest =>
    if isAsciiDigit c then
      let (digits, rest) := takeDecimals rest
      (c :: digits, rest)
    else ([], .char c :: rest)
  | rest => ([], rest)

/-- The digits of the least and the greatest number of turns after an opening brace. -/
def readBraces? (rest : List Token) : Option (List Char × List Char × List Token) :=
  if rest.head? = some (.char '}') then none
  else
    let (low, rest) := takeDecimals rest
    let (high, rest) :=
      match rest with
      | .char ',' :: rest => takeDecimals rest
      | rest => (low, rest)
    match rest with
    | .char '}' :: rest => some (low, high, rest)
    | _ => none

/-- The numbers of turns that a sign of repetition asks for; nothing when it is no such sign. -/
def readTurns (sign : Char) (rest : List Token) :
    Except Fault (Option (Nat × Option Nat × List Token)) :=
  match sign with
  | '?' => .ok (some (0, some 1, rest))
  | '*' => .ok (some (0, none, rest))
  | '+' => .ok (some (1, none, rest))
  | '{' =>
    match readBraces? rest with
    | none => .ok none
    | some (low, high, rest) =>
      let least := Json.natOfDigits low
      let most := if high.isEmpty then none else some (Json.natOfDigits high)
      if rest.head? = some .broken then .error .malformed
      else if maxTurns ≤ least || most.any (maxTurns ≤ ·) then .error .tooManyTurns
      else if most.any (· < least) then .error .malformed
      else .ok (some (least, most, rest))
  | _ => .ok none

/-- What follows a repetition tells which number of turns is tried first. -/
def readGreed : List Token → Greed × List Token
  | .char '?' :: rest => (.reluctant, rest)
  | .char '+' :: rest => (.possessive, rest)
  | rest => (.greedy, rest)

/-! ## Levels -/

/-- What a part is, as far as a sign of repetition after it is concerned. -/
inductive PartKind where
  | ordinary
  | anchor
  | repetition
deriving DecidableEq, Repr

/-- What an opening parenthesis asks for. -/
inductive Opening where
  /-- The whole expression; there is no parenthesis. -/
  | whole
  | plain
  | capture (number : Nat)
  | ahead (negated : Bool)
  /-- `limit` is what held outside for references to groups. -/
  | behind (negated : Bool) (limit : Option Nat)
  | firstWay
  | condition (number : Nat)
deriving DecidableEq, Repr

/-- What has been read inside an open parenthesis. -/
structure Level where
  opening : Opening
  options : Options
  /-- The alternatives that are complete, the latest first. -/
  complete : List Regex
  /-- The parts of the alternative at hand, the latest first. -/
  parts : List (Regex × PartKind)
deriving Repr

/-- A level in which nothing has been read. -/
def Level.start (opening : Opening) (options : Options) : Level :=
  ⟨opening, options, [], []⟩

/-- The alternative at hand. -/
def Level.current (level : Level) : Regex :=
  sequence (level.parts.reverse.map (·.1))

/-- All alternatives of a level. -/
def Level.alternatives (level : Level) : List Regex :=
  (level.current :: level.complete).reverse

/-- What is known while an expression is read. -/
structure State where
  /-- The innermost open level. -/
  level : Level
  /-- The levels around it, the nearest first. -/
  outer : List Level
  groupCount : Nat
  names : List (List Char × Nat)
  /-- The widths of the groups that are closed. -/
  widths : List (Nat × Width)
  /-- Inside a look behind, groups from this number on cannot be referred to. -/
  limit : Option Nat
  /-- The groups that conditions ask for. -/
  wanted : List Nat
  /-- Some look behind has no fixed width. -/
  looseBehind : Bool
  /-- All scripts were asked for. -/
  asksUnicode : Bool
deriving Repr

namespace State

/-- Nothing has been read. -/
def initial : State :=
  ⟨.start .whole .standard, [], 0, [], [], none, [], false, false⟩

/-- The options in force. -/
def options (state : State) : Options :=
  state.level.options

/-- Adds a part to the alternative at hand. -/
def add (state : State) (part : Regex) (kind : PartKind) : State :=
  { state with level := { state.level with parts := (part, kind) :: state.level.parts } }

/-- Adds a part of no special kind. -/
def addPart (state : State) (part : Regex) : State :=
  state.add part .ordinary

/-- Opens a level. -/
def openLevel (state : State) (opening : Opening) (options : Options) : State :=
  { state with level := .start opening options, outer := state.level :: state.outer }

/-- The width of a group that is closed. -/
def widthOf (state : State) (number : Nat) : Width :=
  (state.widths.lookup number).getD (0, 0)

/-- Can a group be referred to, as far as a look behind around the place allows? -/
def admitsReference (state : State) (number : Nat) : Bool :=
  match state.limit with
  | none => true
  | some limit => (state.widths.lookup number).isSome && number < limit

/-- Adds a reference to a group. -/
def addReference? (state : State) (number : Nat) : Option State :=
  if (state.widths.lookup number).isSome && state.admitsReference number then
    some (state.addPart (.again number state.options.letters))
  else none

/-- Opens a group that may have a name. -/
def openGroup? (state : State) (name : Option (List Char)) : Option State :=
  let number := state.groupCount + 1
  let state := { state with groupCount := number }
  match name with
  | none => some (state.openLevel (.capture number) state.options)
  | some name =>
    if (state.names.lookup name).isSome then none
    else
      let state := { state with names := state.names ++ [(name, number)] }
      some (state.openLevel (.capture number) state.options)

/-- Ends the alternative at hand. -/
def nextAlternative? (state : State) : Option State :=
  let level := state.level
  match level.opening with
  | .condition _ =>
    if level.complete.isEmpty then
      some { state with level := { level with complete := [level.current], parts := [] } }
    else none
  | _ =>
    some { state with
      level := { level with complete := level.current :: level.complete, parts := [] } }

/-- What the innermost level amounts to once it is closed. -/
def closed (state : State) : State × Regex :=
  let alternatives := state.level.alternatives
  let body := Regex.alternatives alternatives
  match state.level.opening with
  | .whole | .plain => (state, body)
  | .capture number =>
    ({ state with widths := (number, body.width state.widthOf) :: state.widths },
      .group number body)
  | .ahead negated => (state, .ahead negated body)
  | .behind negated limit =>
    let (low, high) := body.width state.widthOf
    ({ state with
        limit := limit
        looseBehind := state.looseBehind || low ≠ high || maxTurns < low },
      .behind negated low body)
  | .firstWay => (state, .firstWay body)
  | .condition number =>
    match alternatives with
    | [yes, no] => (state, .ifGroup number yes no)
    | _ => (state, .ifGroup number body .empty)

/-- Closes the innermost level. -/
def closeLevel? (state : State) : Option State :=
  match state.outer with
  | [] => none
  | level :: outer =>
    let (state, part) := state.closed
    some ({ state with level := level, outer := outer }.addPart part)

/-- Repeats the latest part. -/
def repeatPart? (state : State) (least : Nat) (most : Option Nat) (greed : Greed) :
    Option State :=
  match state.level.parts with
  | (part, .ordinary) :: parts =>
    some { state with level := { state.level with
      parts := (.turns least most greed part, .repetition) :: parts } }
  | _ => none

end State

/-! ## Reading -/

/-- An escape outside sets. -/
def readEscape? (state : State) (c : Char) (rest : List Token) : Option (State × List Token) :=
  let options := state.options
  let literal (code : Nat) : State := state.addPart (options.oneOf false [.char code])
  match c with
  | 'A' => some (state.add (.place .textStart) .anchor, rest)
  | 'Z' => some (state.add (.place .veryEnd) .anchor, rest)
  | 'b' => some (state.add (.place (.wordEdge options.asciiOnly)) .anchor, rest)
  | 'B' => some (state.add (.place (.noWordEdge options.asciiOnly)) .anchor, rest)
  | _ =>
    match category? c, controlCode? c with
    | some (kind, negated), _ =>
      some (state.addPart (options.oneOf false [.category kind negated options.asciiOnly]), rest)
    | none, some code => some (literal code, rest)
    | none, none =>
      if c = 'x' || c = 'u' || c = 'U' then
        (hexEscape? c rest).map fun (code, rest) => (literal code, rest)
      else if c = '0' then
        let (digits, rest) := takeDigits 8 2 rest
        some (literal (numberOf 8 digits), rest)
      else if isAsciiDigit c then
        let first := c.toNat - 0x30
        match takeDigits 8 2 rest, takeDigits 10 1 rest with
        | ([second, third], rest), _ =>
          if first < 8 then
            let code := numberOf 8 [first, second, third]
            if 0xFF < code then none else some (literal code, rest)
          else (state.addReference? (first * 10 + second)).map fun state =>
            (state, .char (Char.ofNat (0x30 + third)) :: rest)
        | _, (digits, rest) =>
          (state.addReference? (numberOf 10 (first :: digits))).map fun state => (state, rest)
      else if isAsciiLetter c then none
      else some (literal c.toNat, rest)

/-- A condition that asks for a group, after its opening parenthesis. -/
def readCondition? (state : State) (rest : List Token) : Option (State × List Token) := do
  let (name, rest) ← nameUntil? ')' rest
  let (number, state) ←
    if isIdentifier name then (state.names.lookup name).map fun number => (number, state)
    else do
      let number ← (groupNumber? name).filter fun number => number ≠ 0 && number < maxGroups
      some (number, { state with wanted := number :: state.wanted })
  if state.admitsReference number then
    some (state.openLevel (.condition number) state.options, rest)
  else none

/-- Options in a parenthesis. -/
def readOptionPart? (state : State) (rest : List Token) : Option (State × List Token) := do
  let (scope, rest) ← readOptions? rest
  match scope with
  | .inside on off =>
    let options := off.foldl (Options.switch false) (on.foldl (Options.switch true) state.options)
    some (state.openLevel .plain options, rest)
  | .everything on =>
    let level := state.level
    if level.opening = .whole && level.complete.isEmpty && level.parts.isEmpty then
      let options := (on.filter (· ≠ 'u')).foldl (Options.switch true) level.options
      some ({ state with
        level := { level with options }
        asksUnicode := state.asksUnicode || on.contains 'u' }, rest)
    else none

/-- A part with a question mark after its opening parenthesis. -/
def readSpecial? (state : State) (rest : List Token) : Option (State × List Token) :=
  let options := state.options
  match rest with
  | .char ':' :: rest => some (state.openLevel .plain options, rest)
  | .char '>' :: rest => some (state.openLevel .firstWay options, rest)
  | .char '=' :: rest => some (state.openLevel (.ahead false) options, rest)
  | .char '!' :: rest => some (state.openLevel (.ahead true) options, rest)
  | .char '<' :: .char sign :: rest =>
    if sign = '=' || sign = '!' then
      let opened := state.openLevel (.behind (sign = '!') state.limit) options
      some ({ opened with limit := some (state.limit.getD (state.groupCount + 1)) }, rest)
    else none
  | .char '#' :: rest => (textUntil? ')' rest).map fun (_, rest) => (state, rest)
  | .char '(' :: rest => readCondition? state rest
  | .char 'P' :: .char '<' :: rest => do
    let (name, rest) ← nameUntil? '>' rest
    if isIdentifier name then (state.openGroup? (some name)).map fun state => (state, rest)
    else none
  | .char 'P' :: .char '=' :: rest => do
    let (name, rest) ← nameUntil? ')' rest
    let number ← if isIdentifier name then state.names.lookup name else none
    (state.addReference? number).map fun state => (state, rest)
  | rest => readOptionPart? state rest

/-- An opening parenthesis. -/
def readOpening? (state : State) (rest : List Token) : Option (State × List Token) :=
  match rest with
  | .char '?' :: rest => readSpecial? state rest
  | rest => (state.openGroup? none).map fun state => (state, rest)

/-- A sign of repetition; a brace that tells no numbers stands for itself. -/
def readRepetition (state : State) (sign : Char) (rest : List Token) :
    Except Fault (State × List Token) := do
  match ← readTurns sign rest with
  | none => .ok (state.addPart (state.options.oneOf false [.char sign.toNat]), rest)
  | some (least, most, rest) =>
    let (greed, rest) := readGreed rest
    match state.repeatPart? least most greed with
    | some state => .ok (state, rest)
    | none => .error .malformed

/-- Blanks that count for nothing in verbose expressions. -/
def isVerboseBlank (c : Char) : Bool :=
  c = ' ' || (9 ≤ c.toNat && c.toNat ≤ 13)

/-- What is left after a line. -/
def dropLine (rest : List Token) : List Token :=
  match rest.dropWhile fun token => token ≠ .char '\n' && token ≠ .broken with
  | .char _ :: rest => rest
  | rest => rest

/-- What a token does. -/
def readToken (state : State) (token : Token) (rest : List Token) :
    Except Fault (State × List Token) :=
  let orMalformed (result : Option (State × List Token)) : Except Fault (State × List Token) :=
    match result with
    | some result => .ok result
    | none => .error .malformed
  let options := state.options
  match token with
  | .broken => .error .malformed
  | .escape c => orMalformed (readEscape? state c rest)
  | .char c =>
    if options.verbose && isVerboseBlank c then .ok (state, rest)
    else if options.verbose && c = '#' then .ok (state, dropLine rest)
    else match c with
      | '[' => orMalformed ((readSet? options rest).map fun (part, rest) =>
          (state.addPart part, rest))
      | '(' => orMalformed (readOpening? state rest)
      | ')' => orMalformed (state.closeLevel?.map fun state => (state, rest))
      | '|' => orMalformed (state.nextAlternative?.map fun state => (state, rest))
      | '*' | '+' | '?' | '{' => readRepetition state c rest
      | '.' =>
        .ok (state.addPart (options.oneOf true (if options.dotAll then [] else [.char 10])), rest)
      | '^' =>
        .ok (state.add (.place (if options.eachLine then .lineStart else .textStart)) .anchor, rest)
      | '$' =>
        .ok (state.add (.place (if options.eachLine then .lineEnd else .textEnd)) .anchor, rest)
      | _ => .ok (state.addPart (options.oneOf false [.char c.toNat]), rest)

/-- Reads tokens until a parenthesis closes that was not opened, and gives what is left then. -/
def readTokens : (fuel : Nat) → State → List Token → Except Fault (State × List Token)
  | 0, state, rest => .ok (state, rest)
  | _, state, [] => .ok (state, [])
  | fuel + 1, state, token :: rest =>
    if token = .char ')' && state.outer.isEmpty then .ok (state, token :: rest)
    else do
      let (state, rest) ← readToken state token rest
      readTokens fuel state rest

/-- The expression that a text writes. -/
def parse (text : List Char) : Except Fault Expression := do
  let (state, rest) ← readTokens (text.length + 1) .initial (tokens text)
  if !state.outer.isEmpty then .error .malformed
  else if state.level.options.asciiOnly && state.asksUnicode then .error .conflictingOptions
  else if !rest.isEmpty || state.looseBehind || state.wanted.any (state.groupCount < ·) then
    .error .malformed
  else .ok ⟨Regex.alternatives state.level.alternatives, state.groupCount, state.names⟩

end PageBlocks.Regex
