import PageBlocks.Html.Lenient
/-!
# Fragments of markup

A fragment is markup as a forest, without the identities that nodes of a page carry.  Like a
forest of a page it is given by its first piece and the pieces after it.
-/

namespace PageBlocks

open Html.Lenient (Event)
open Html (WrittenAttributes)

/-- Markup as a forest. -/
inductive Fragment where
  | nil
  | text (content : List Char) (next : Fragment)
  /-- A comment or an instruction. -/
  | remark (next : Fragment)
  | element (name : String) (attributes : WrittenAttributes) (children next : Fragment)
deriving DecidableEq, Repr

namespace Fragment

/-- Puts text in front of a fragment. -/
def consText (content : List Char) : Fragment → Fragment
  | text more next => text (content ++ more) next
  | fragment => if content.isEmpty then fragment else text content fragment

/-- One fragment after another.  Text at the end of the first one joins text at the start of the
second one. -/
def append : Fragment → Fragment → Fragment
  | nil, after => after
  | text content next, after => consText content (next.append after)
  | remark next, after => remark (next.append after)
  | element name attributes children next, after =>
    element name attributes children (next.append after)

/-- The text that a fragment begins with. -/
def leadingText : Fragment → List Char
  | text content _ => content
  | _ => []

/-- A fragment without the text that it begins with. -/
def dropLeadingText : Fragment → Fragment
  | text _ next => next
  | fragment => fragment

/-- Takes an event to the fragments that are being put together from their ends, the innermost
first. -/
def takeEvent (event : Event) (levels : List Fragment) : List Fragment :=
  match event, levels with
  | .finish, levels => nil :: levels
  | .start name attributes, children :: next :: outer =>
    element name attributes children next :: outer
  | .text content, next :: outer => consText content next :: outer
  | .comment _, next :: outer => remark next :: outer
  | _, levels => levels

/-- The fragment that properly nested events describe. -/
def ofEvents (events : List Event) : Fragment :=
  (events.foldr takeEvent [nil]).headD nil

/-- The children of the top-level elements of a given name. -/
def childrenOf (name : String) : Fragment → List Fragment
  | nil => []
  | text _ next => next.childrenOf name
  | remark next => next.childrenOf name
  | element own _ children next =>
    if own = name then children :: next.childrenOf name else next.childrenOf name

end Fragment

end PageBlocks
