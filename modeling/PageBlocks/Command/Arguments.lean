/-!
# Arguments of commands

The words after the name of a command are options, the values of options, and arguments that are
told apart by their places.  Options have long names, which may be cut short as long as they are
not mistaken, and names of one letter, which may be written together and before their values.  After
a word of two dashes there are no more options.

Arguments are given words as soon as words stand in a row: as many of the arguments that are left
as can be given some share as long as possible, the earlier ones first.
-/

namespace PageBlocks.Command

/-- How many words an argument takes. -/
inductive Shape where
  | one
  | any
  | several
  /-- At least one word, and all that follow, options or not. -/
  | rest
deriving DecidableEq, Repr

/-- An argument that is told by its place. -/
structure Argument where
  name : String
  shape : Shape
  /-- The words that may be given, where not all may. -/
  choices : Option (List String)
deriving DecidableEq, Repr

/-- An option. -/
structure Flag where
  /-- How the option is written. -/
  spellings : List String
  name : String
  takesValue : Bool
  choices : Option (List String)
  /-- Does the option ask for help? -/
  asksHelp : Bool
deriving DecidableEq, Repr

/-- What a command can be told. -/
structure Interface where
  flags : List Flag
  arguments : List Argument
  /-- Options of which exactly one has to be given, if there are any. -/
  alternatives : List String
deriving DecidableEq, Repr

/-- The option that asks for help. -/
def helpFlag : Flag := ⟨["-h", "--help"], "help", false, none, true⟩

/-- Why a command does not run. -/
inductive Ending where
  | help
  | misuse
deriving DecidableEq, Repr

/-- What a command was told: names with words, in the order in which they were given. -/
abbrev Given := List (String × List String)

namespace Given

/-- The words that were last given for a name. -/
def last? (given : Given) (name : String) : Option (List String) :=
  (given.reverse.find? (·.1 = name)).map (·.2)

/-- The word that was last given for a name. -/
def word? (given : Given) (name : String) : Option String :=
  (given.last? name).bind List.head?

/-- All words that were given for a name. -/
def words (given : Given) (name : String) : List String :=
  (given.filter (·.1 = name)).flatMap (·.2)

/-- Was anything given for a name? -/
def has (given : Given) (name : String) : Bool :=
  given.any (·.1 = name)

end Given

/-! ## Kinds of words -/

/-- What a word is taken for, before it is known what it is given to. -/
inductive WordKind where
  | plain
  | separator
  /-- An option, with the value that stands in the same word: after an equals sign, or at once. -/
  | option (flag : Flag) (value : Option String) (hasSign : Bool)
  /-- An option that the command does not have. -/
  | unknown
deriving DecidableEq, Repr

namespace WordKind

/-- Is the word an option? -/
def isOption : WordKind → Bool
  | option .. | unknown => true
  | _ => false

end WordKind

/-- A text without its first characters. -/
def dropChars (count : Nat) (text : String) : String :=
  String.ofList (text.toList.drop count)

/-- The characters before the first equals sign, and those after it. -/
def cutSign (word : String) : String × Option String :=
  let before := word.toList.takeWhile (· ≠ '=')
  match word.toList.drop before.length with
  | [] => (word, none)
  | _ :: after => (String.ofList before, some (String.ofList after))

/-- Does the word write a negative number? -/
def isNegativeNumber (word : String) : Bool :=
  match word.toList with
  | '-' :: rest =>
    let whole := rest.takeWhile Char.isDigit
    match rest.drop whole.length with
    | [] => !whole.isEmpty
    | '.' :: digits => !digits.isEmpty && digits.all Char.isDigit
    | _ => false
  | _ => false

namespace Interface

/-- The option that is written as told. -/
def find? (interface : Interface) (spelling : String) : Option Flag :=
  interface.flags.find? fun flag => flag.spellings.contains spelling

/-- Each option as often as there are spellings that a word begins. -/
def begun (interface : Interface) (start : String) : List Flag :=
  interface.flags.flatMap fun flag =>
    (flag.spellings.filter fun spelling => start.toList.isPrefixOf spelling.toList).map fun _ =>
      flag

/-- The options that a word may stand for, as an abbreviation or with a value at once. -/
def readings (interface : Interface) (word : String) : List WordKind :=
  if "--".toList.isPrefixOf word.toList then
    let (start, value) := cutSign word
    (interface.begun start).map fun flag => .option flag value value.isSome
  else
    let short := String.ofList (word.toList.take 2)
    let value := dropChars 2 word
    interface.flags.flatMap fun flag =>
      flag.spellings.filterMap fun spelling =>
        if spelling = short then some (.option flag (some value) false)
        else if word.toList.isPrefixOf spelling.toList then some (.option flag none false)
        else none

/-- What a word is taken for; nothing when it may stand for several options. -/
def kindOf? (interface : Interface) (word : String) : Option WordKind :=
  if !"-".toList.isPrefixOf word.toList then some .plain
  else match interface.find? word with
    | some flag => some (.option flag none false)
    | none =>
      if word = "-" then some .plain
      else match cutSign word with
        | (start, some value) =>
          match interface.find? start with
          | some flag => some (.option flag (some value) true)
          | none => ofReadings word
        | (_, none) => ofReadings word
where
  /-- What a word is taken for when it is no option as it stands. -/
  ofReadings (word : String) : Option WordKind :=
    match interface.readings word with
    | [kind] => some kind
    | _ :: _ => none
    | [] => some (if isNegativeNumber word || word.toList.contains ' ' then .plain else .unknown)

/-- What the words are taken for. -/
def classify (interface : Interface) : List String → Except Ending (List (String × WordKind))
  | [] => .ok []
  | word :: words =>
    if word = "--" then .ok ((word, .separator) :: words.map fun word => (word, .plain))
    else match interface.kindOf? word with
      | none => .error .misuse
      | some kind => (interface.classify words).map fun rest => (word, kind) :: rest

end Interface

/-! ## Sharing words out -/

/-- Can a word be given to an argument? -/
def isGivable : WordKind → Bool
  | .plain | .separator => true
  | _ => false

namespace Shape

/-- How many of the words in a row an argument can take, its favourite number first. -/
def shares (shape : Shape) (kinds : List WordKind) : List Nat :=
  let separators := (kinds.takeWhile (· = .separator)).length
  let fromTo (least : Nat) (most : Nat) : List Nat :=
    ((List.range (most + 1 - least)).map (· + least)).reverse
  if shape = .any then fromTo 0 (kinds.takeWhile isGivable).length
  else match kinds.drop separators with
    | .plain :: after =>
      let least := separators + 1
      match shape with
      | .one => fromTo least (least + (after.takeWhile (· = .separator)).length)
      | .rest => fromTo least kinds.length
      | _ => fromTo least (least + (after.takeWhile isGivable).length)
    | _ => []

end Shape

/-- The shares of several arguments, if all of them can be given some. -/
def shareAll? : List Argument → List WordKind → Option (List Nat)
  | [], _ => some []
  | argument :: arguments, kinds =>
    (argument.shape.shares kinds).findSome? fun share =>
      (shareAll? arguments (kinds.drop share)).map (share :: ·)

/-- The shares of as many of the first arguments as can be given some. -/
def shareMost (arguments : List Argument) (kinds : List WordKind) : List Nat :=
  ((List.range arguments.length).reverse.findSome? fun fewer =>
    shareAll? (arguments.take (fewer + 1)) kinds).getD []

/-! ## Reading -/

/-- How far the reading has come. -/
structure State where
  /-- The arguments that have not been given words. -/
  left : List Argument
  given : Given
  /-- The words that belong to nothing. -/
  extra : List String
deriving Repr

namespace Interface

/-- Are all words among the choices? -/
def areAllowed (choices : Option (List String)) (words : List String) : Bool :=
  match choices with
  | none => true
  | some choices => words.all choices.contains

/-- Gives words to a name, unless an alternative to it has been given some. -/
def give (interface : Interface) (state : State) (name : String) (words : List String) :
    Except Ending State :=
  let others := interface.alternatives.filter (· ≠ name)
  if interface.alternatives.contains name && others.any state.given.has then .error .misuse
  else .ok { state with given := state.given ++ [(name, words)] }

/-- Gives words to an argument. -/
def giveArgument (interface : Interface) (state : State) (argument : Argument)
    (words : List String) : Except Ending State :=
  let words := if argument.shape = .rest then words else words.erase "--"
  let checked := if argument.shape = .rest then words.take 1 else words
  if areAllowed argument.choices checked then interface.give state argument.name words
  else .error .misuse

/-- Gives words to arguments by their shares. -/
def giveShares (interface : Interface) : List (Argument × Nat) → List String → State →
    Except Ending State
  | [], _, state => .ok state
  | (argument, share) :: shares, words, state => do
    let state ← interface.giveArgument state argument (words.take share)
    interface.giveShares shares (words.drop share) state

/-- Gives the words in a row to the arguments that are left, and yields how many were given. -/
def giveRow (interface : Interface) (state : State) (words : List (String × WordKind)) :
    Except Ending (State × Nat) := do
  let shares := shareMost state.left (words.map (·.2))
  let state' ← interface.giveShares (state.left.zip shares) (words.map (·.1)) state
  return ({ state' with left := state.left.drop shares.length }, shares.foldl (· + ·) 0)

/-- Takes an option without a value. -/
def giveFlag (interface : Interface) (state : State) (flag : Flag) : Except Ending State :=
  if flag.asksHelp then .error .help else interface.give state flag.name []

/-- Takes an option with a value. -/
def giveValue (interface : Interface) (state : State) (flag : Flag) (value : String) :
    Except Ending State :=
  if areAllowed flag.choices [value] then interface.give state flag.name [value]
  else .error .misuse

/-- Takes options of one letter that are written together: `flags` are those before, which take no
value, and `letters` are the rest of the word.  Yields the number of further words that are used
up. -/
def giveLetters (interface : Interface) (words : List (String × WordKind)) (hasSign : Bool)
    (flags : List Flag) (flag : Flag) (value : Option (List Char)) (fuel : Nat) (state : State) :
    Except Ending (State × Nat) :=
  let giveFlags (state : State) : Except Ending State := flags.foldlM interface.giveFlag state
  match value, fuel with
  | none, _ =>
    if flag.takesValue then
      match words with
      | (word, .plain) :: _ => do
        return (← interface.giveValue (← giveFlags state) flag word, 1)
      | _ => .error .misuse
    else do return (← interface.giveFlag (← giveFlags state) flag, 0)
  | some value, 0 => do
    return (← interface.giveValue (← giveFlags state) flag (String.ofList value), 0)
  | some value, fuel + 1 =>
    if flag.takesValue then do
      return (← interface.giveValue (← giveFlags state) flag (String.ofList value), 0)
    else match value with
      | [] => .error .misuse
      | letter :: more =>
        if hasSign || letter = '-' then .error .misuse
        else match interface.find? (String.ofList ['-', letter]) with
          | none => do
            let state ← giveFlags state
            let state ← interface.giveFlag state flag
            return ({ state with extra := state.extra ++ [String.ofList ('-' :: value)] }, 0)
          | some next =>
            match more with
            | [] => interface.giveLetters words false (flags ++ [flag]) next none fuel state
            | '=' :: more =>
              interface.giveLetters words true (flags ++ [flag]) next (some more) fuel state
            | more =>
              interface.giveLetters words false (flags ++ [flag]) next (some more) fuel state

/-- Takes the option that words start with, and yields how many words are used up. -/
def giveOption (interface : Interface) (state : State) (word : String) (kind : WordKind)
    (words : List (String × WordKind)) : Except Ending (State × Nat) :=
  match kind with
  | .option flag value hasSign =>
    let isLong := "--".toList.isPrefixOf word.toList
    if isLong && value.isSome && !flag.takesValue then .error .misuse
    else do
      let (state, used) ← interface.giveLetters words hasSign [] flag (value.map String.toList)
        word.length state
      return (state, used + 1)
  | _ => .ok ({ state with extra := state.extra ++ [word] }, 1)

/-- Reads words that hold options.  The fuel bounds the number of rows and options. -/
def readWords (interface : Interface) : (fuel : Nat) → List (String × WordKind) → State →
    Except Ending State
  | 0, _, state => .ok state
  | fuel + 1, words, state =>
    if !words.any (·.2.isOption) then do
      let (state, count) ← interface.giveRow state words
      return { state with extra := state.extra ++ (words.drop count).map (·.1) }
    else
      let row := words.takeWhile (!·.2.isOption)
      match words.drop row.length with
      | [] => .ok state
      | (word, kind) :: after =>
        if row.isEmpty then do
          let (state, used) ← interface.giveOption state word kind after
          interface.readWords fuel (words.drop used) state
        else do
          let (state, count) ← interface.giveRow state words
          if 0 < count then interface.readWords fuel (words.drop count) state
          else
            let state := { state with extra := state.extra ++ row.map (·.1) }
            let (state, used) ← interface.giveOption state word kind after
            interface.readWords fuel (after.drop (used - 1)) state

/-- What a command is told by words, and the words that belong to nothing. -/
def read (interface : Interface) (words : List String) : Except Ending (Given × List String) := do
  let classified ← interface.classify words
  let state ← interface.readWords (2 * words.length + 1) classified ⟨interface.arguments, [], []⟩
  if !interface.arguments.all fun argument => state.given.has argument.name then .error .misuse
  else if !interface.alternatives.isEmpty && !interface.alternatives.any state.given.has then
    .error .misuse
  else .ok (state.given, state.extra)

/-- What a command is told by words, all of which have to belong to something. -/
def readAll (interface : Interface) (words : List String) : Except Ending Given := do
  let (given, extra) ← interface.read words
  if extra.isEmpty then .ok given else .error .misuse

end Interface

end PageBlocks.Command
