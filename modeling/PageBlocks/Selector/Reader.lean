import PageBlocks.Selector.Token
import PageBlocks.Selector.Form
import PageBlocks.Text.Blank
/-!
# Reading selectors

The tokens of a selector are put together from left to right.  What is open at any time is a stack
of groups: the selector itself at the bottom and above it the lists in parentheses that have begun
and not ended yet.  Each token changes the group on top, opens a group or closes one.

Lists after `:is(` and `:where(` forgive entries that are missing; all others do not.

## Main results

* `parse?_nil` — nothing is no selector.
-/

namespace PageBlocks.Selector

/-- What a list in parentheses is for. -/
inductive GroupKind where
  /-- The selector as a whole. -/
  | whole
  | anyOf (forgiving : Bool)
  | noneOf
  | has
  /-- A condition that nothing meets, whatever its arguments are. -/
  | absent
  | place (counting : Counting)
deriving DecidableEq, Repr

/-- A list of selectors that is being read. -/
structure Group where
  kind : GroupKind
  /-- The selectors of the list that are complete, the last one first. -/
  alternatives : List Selector
  /-- What was read in front of the current compound, as a condition on it. -/
  front : Option Selector
  /-- In a list after `:has(`, the compounds that come before the current one, the last one
  first, and how each lies with respect to what is before it. -/
  steps : List (Combinator × Selector)
  /-- In a list after `:has(`, how the current compound lies with respect to what is before it. -/
  lead : Combinator
  /-- The conditions of the current compound. -/
  conditions : List Selector
deriving Repr

namespace Group

/-- A list of which nothing has been read. -/
def start (kind : GroupKind) : Group :=
  ⟨kind, [], none, [], .descendant, []⟩

/-- Adds a condition to the current compound. -/
def add (group : Group) (condition : Selector) : Group :=
  { group with conditions := group.conditions ++ [condition] }

/-- Are missing entries of the list forgiven? -/
def isForgiving (group : Group) : Bool :=
  group.kind = .anyOf true

/-- Is the list one of selectors that look forward? -/
def isForward (group : Group) : Bool :=
  group.kind = .has

/-- The current compound with what is in front of it. -/
def current (group : Group) : Selector :=
  Selector.all (group.conditions ++ group.front.toList)

/-- The current compound as the last step of a selector that looks forward. -/
def currentSteps (group : Group) : List (Combinator × Selector) :=
  (group.lead, Selector.all group.conditions) :: group.steps

/-- A selector that looks forward, given its steps from the last one to the first one. -/
def forward (steps : List (Combinator × Selector)) : Selector :=
  steps.foldl (fun rest step => .has step.1 (Selector.all [step.2, rest])) .always

/-- The list with a complete entry; a new one begins. -/
def complete (group : Group) (entry : Selector) : Group :=
  { start group.kind with alternatives := entry :: group.alternatives }

/-- Reads a comma. -/
def comma? (group : Group) : Option Group :=
  if group.conditions.isEmpty then
    if group.isForgiving then some (group.complete .never) else none
  else if group.isForward then some (group.complete (forward group.currentSteps))
  else some (group.complete group.current)

/-- Reads a combinator. -/
def combine? (group : Group) (combinator : Combinator) : Option Group :=
  if group.isForward then
    if group.conditions.isEmpty then
      if group.lead = .descendant then some { group with lead := combinator } else none
    else
      some { group with steps := group.currentSteps, lead := combinator, conditions := [] }
  else if group.conditions.isEmpty then none
  else some { group with front := some (.follows combinator group.current), conditions := [] }

/-- The alternatives of a list that ends. -/
def finish? (group : Group) : Option Selector :=
  let ended? :=
    if group.conditions.isEmpty then
      if group.isForgiving && (group.alternatives.isEmpty || group.front.isNone) then
        some (group.complete .never)
      else none
    else group.comma?
  ended?.map fun group => Selector.any group.alternatives.reverse

/-- The condition that a list stands for, given its alternatives. -/
def conditionOf (kind : GroupKind) (alternatives : Selector) : Selector :=
  match kind with
  | .noneOf => .not alternatives
  | .absent => .never
  | .place c => .place c.step c.offset c.fromEnd c.sameName alternatives
  | _ => alternatives

end Group

/-- The group that a name with an opening parenthesis begins. -/
def groupOf? (name : String) : Option GroupKind :=
  match name with
  | "is" | "where" => some (.anyOf true)
  | "matches" | "contains" | "-soup-contains" | "-soup-contains-own" => some (.anyOf false)
  | "not" => some .noneOf
  | "has" => some .has
  | "current" | "host" | "host-context" => some .absent
  | _ => none

/-- Takes one token to the open groups, the innermost first. -/
def step? (groups : List Group) (token : Token) : Option (List Group) :=
  match groups with
  | [] => none
  | group :: outer =>
    match token with
    | .test condition => some (group.add (.test condition) :: outer)
    | .unequal condition => some (group.add (.not (.test (.attribute condition))) :: outer)
    | .name namePrefix name =>
      if group.conditions.isEmpty then
        some (group.add (.test (.name namePrefix name)) :: outer)
      else none
    | .place c => some (group.add (.place c.step c.offset c.fromEnd c.sameName .always) :: outer)
    | .state name => (ofStateName name).map fun condition => group.add condition :: outer
    | .openState name => (groupOf? name).map fun kind => .start kind :: group :: outer
    | .openPlace counting => some (.start (.place counting) :: group :: outer)
    | .separator .comma => group.comma?.map (· :: outer)
    | .separator (.combinator combinator) => (group.combine? combinator).map (· :: outer)
    | .close =>
      match outer with
      | [] => none
      | holder :: further =>
        group.finish?.map fun alternatives =>
          holder.add (Group.conditionOf group.kind alternatives) :: further

/-- The selector that tokens make up. -/
def ofTokens? (tokens : List Token) : Option Selector :=
  match tokens.foldlM step? [Group.start .whole] with
  | some [group] => group.finish?
  | _ => none

/-- Reads a selector. -/
def parse? (text : List Char) : Option Selector :=
  if PageBlocks.Text.isBlankText text then none else (tokens? text).bind ofTokens?

theorem parse?_nil : parse? [] = none := rfl

/-- Is the text a selector? -/
def isValid (text : String) : Bool :=
  (parse? text.toList).isSome

end PageBlocks.Selector
