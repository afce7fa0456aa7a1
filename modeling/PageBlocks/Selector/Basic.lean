/-!
# Selectors

A selector is a condition on an element.  It is built from tests of the element itself by the
connectives of logic and by two ways of looking around: `follows` asks for an element above or in
front of this one, `has` for an element below or behind it.  A written compound such as `ul.nav > li`
is read from its end: the element is an `li`, and the element that holds it is an `ul` of class
`nav`.  The selectors that look at names, classes, identifiers and attributes of an element and of
those above it, and at nothing else, are `Selector.Plain`.
-/

namespace PageBlocks

/-- How one element of a selector lies with respect to the next one. -/
inductive Combinator where
  | descendant
  | child
  | nextSibling
  | laterSibling
deriving DecidableEq, Repr

/-- The vocabulary that is written in front of a name. -/
inductive NamePrefix where
  /-- No prefix at all, as in `a`. -/
  | unwritten
  /-- Any vocabulary, as in `*|a`. -/
  | anything
  /-- No vocabulary, as in `|a`. -/
  | nothing
  /-- A vocabulary by name, as in `svg|a`; no names are declared. -/
  | declared (name : String)
deriving DecidableEq, Repr

/-- How the value of an attribute compares with a given one. -/
inductive Comparison where
  | present
  | equal
  | word
  | dashed
  | start
  | finish
  | part
deriving DecidableEq, Repr

/-- A condition on one attribute. -/
structure AttributeTest where
  namePrefix : NamePrefix
  name : String
  comparison : Comparison
  value : List Char
  ignoresCase : Bool
deriving DecidableEq, Repr

/-- A condition that an element meets or not, wherever it is looked at from. -/
inductive Test where
  | name (namePrefix : NamePrefix) (name : String)
  | identity (value : String)
  | className (value : String)
  | attribute (test : AttributeTest)
  /-- The element belongs to the vocabulary of pages. -/
  | pageElement
  | root
  | scope
  | empty
  | defined
  /-- The text holds one of the pieces; with `own`, one text directly below does. -/
  | text (pieces : List (List Char)) (own : Bool)
  | language (ranges : List (List Char))
  | rightToLeft
  | leftToRight
  /-- There is no text, or a single line break. -/
  | blankContent
  | inRange
  | outOfRange
  /-- The first button that submits the form around it. -/
  | firstSubmit
  /-- No radio button of the same name in the form is chosen. -/
  | undecided
deriving DecidableEq, Repr

/-- A condition on an element and its surroundings. -/
inductive Selector where
  | always
  | never
  | test (test : Test)
  | both (first second : Selector)
  | either (first second : Selector)
  | not (condition : Selector)
  /-- An element that lies as told before this one meets the condition. -/
  | follows (combinator : Combinator) (condition : Selector)
  /-- An element that lies as told after this one meets the condition. -/
  | has (combinator : Combinator) (condition : Selector)
  /-- Counted among the siblings that meet `among`, and with `sameName` among those of the same
  name, the place of the element is `step * n + offset` for a natural number `n`. -/
  | place (step offset : Int) (fromEnd sameName : Bool) (among : Selector)
deriving DecidableEq, Repr

namespace Selector

/-- All the conditions hold. -/
def all : List Selector → Selector
  | [] => always
  | [condition] => condition
  | condition :: rest => both condition (all rest)

/-- One of the conditions holds. -/
def any : List Selector → Selector
  | [] => never
  | [condition] => condition
  | condition :: rest => either condition (any rest)

/-- The n-th place of all. -/
def nth (place : Nat) (fromEnd sameName : Bool) : Selector :=
  .place 0 place fromEnd sameName always

/-- Selectors that look at nothing but the tag of an element and the tags of those above it. -/
inductive Plain : Selector → Prop where
  | always : Plain always
  | name (namePrefix : NamePrefix) (name : String) : Plain (test (.name namePrefix name))
  | identity (value : String) : Plain (test (.identity value))
  | className (value : String) : Plain (test (.className value))
  | hasAttribute (condition : AttributeTest) : Plain (test (.attribute condition))
  | lacksAttribute (condition : AttributeTest) : Plain (not (test (.attribute condition)))
  | both {first second : Selector} : Plain first → Plain second → Plain (both first second)
  | descendant {condition : Selector} : Plain condition → Plain (.follows .descendant condition)
  | child {condition : Selector} : Plain condition → Plain (.follows .child condition)

end Selector

end PageBlocks
