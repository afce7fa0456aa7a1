/-!
# Searching and splitting text

Text is handled as a list of characters, so that each search is one recursion over the text.

## Main results

* `dropLeading?_eq_some_iff` — what is left after a leading piece is dropped.
* `cut?_eq_some` — the two sides of a cut, with the separator between them, are the text.
* `splitOn_ne_nil` — splitting yields at least one piece.
-/

namespace PageBlocks.Text

/-- What follows `lead` in a text that starts with it. -/
def dropLeading? : (lead : List Char) → (text : List Char) → Option (List Char)
  | [], text => some text
  | _ :: _, [] => none
  | l :: lead, c :: text => if l = c then dropLeading? lead text else none

theorem dropLeading?_eq_some_iff {lead text rest : List Char} :
    dropLeading? lead text = some rest ↔ text = lead ++ rest := by
  induction lead generalizing text with
  | nil => simp [dropLeading?]
  | cons l lead ih =>
    cases text with
    | nil => simp [dropLeading?]
    | cons c text =>
      by_cases h : l = c
      · simp [dropLeading?, h, ih]
      · simp [dropLeading?, h, Ne.symm h]

/-- Does the text start with `lead`? -/
def startsWith (lead text : List Char) : Bool :=
  (dropLeading? lead text).isSome

/-- Does the text end with `tail`? -/
def endsWith (tail text : List Char) : Bool :=
  startsWith tail.reverse text.reverse

/-- Does the piece occur anywhere in the text? -/
def occursIn (piece : List Char) : (text : List Char) → Bool
  | [] => piece.isEmpty
  | c :: text => startsWith piece (c :: text) || occursIn piece text

/-- The text before and after the first occurrence of a separator. -/
def cut? (separator : List Char) : (text : List Char) → Option (List Char × List Char)
  | [] => if separator.isEmpty then some ([], []) else none
  | c :: text =>
    match dropLeading? separator (c :: text) with
    | some rest => some ([], rest)
    | none => (cut? separator text).map fun (before, after) => (c :: before, after)

theorem cut?_eq_some {separator text before after : List Char}
    (h : cut? separator text = some (before, after)) :
    text = before ++ separator ++ after := by
  induction text generalizing before with
  | nil =>
    simp only [cut?] at h
    split at h
    · next he => simp_all
    · simp at h
  | cons c text ih =>
    simp only [cut?] at h
    split at h
    · next rest hrest =>
      simp only [Option.some.injEq, Prod.mk.injEq] at h
      obtain ⟨rfl, rfl⟩ := h
      simpa using dropLeading?_eq_some_iff.1 hrest
    · obtain ⟨⟨b, a⟩, hb, he⟩ := Option.map_eq_some_iff.1 h
      simp only [Prod.mk.injEq] at he
      obtain ⟨rfl, rfl⟩ := he
      simp [ih hb]

/-- The text before and after the last occurrence of a separator. -/
def cutLast? (separator text : List Char) : Option (List Char × List Char) :=
  (cut? separator.reverse text.reverse).map fun (after, before) =>
    (before.reverse, after.reverse)

/-- Puts a character in front of the first piece. -/
def consToHead (c : Char) : List (List Char) → List (List Char)
  | [] => [[c]]
  | piece :: pieces => (c :: piece) :: pieces

/-- `splitOn`, where the first `skip` characters belong to a separator that was found already. -/
def splitAfter (separator : List Char) : (skip : Nat) → (text : List Char) → List (List Char)
  | _, [] => [[]]
  | skip + 1, _ :: text => splitAfter separator skip text
  | 0, c :: text =>
    if startsWith separator (c :: text) then
      [] :: splitAfter separator (separator.length - 1) text
    else consToHead c (splitAfter separator 0 text)

/-- The pieces between the occurrences of a separator, which are found from the left and do not
overlap.  The separator is not empty. -/
def splitOn (separator text : List Char) : List (List Char) :=
  splitAfter separator 0 text

theorem consToHead_ne_nil {c : Char} {pieces : List (List Char)} : consToHead c pieces ≠ [] := by
  cases pieces <;> simp [consToHead]

theorem splitAfter_ne_nil {separator text : List Char} {skip : Nat} :
    splitAfter separator skip text ≠ [] := by
  induction text generalizing skip with
  | nil => simp [splitAfter]
  | cons c text ih =>
    cases skip with
    | succ skip => simpa [splitAfter] using ih
    | zero =>
      simp only [splitAfter]
      split
      · simp
      · exact consToHead_ne_nil

theorem splitOn_ne_nil {separator text : List Char} : splitOn separator text ≠ [] :=
  splitAfter_ne_nil

/-- The pieces with a separator between neighbours. -/
def joinWith (separator : List Char) (pieces : List (List Char)) : List Char :=
  (pieces.intersperse separator).flatten

/-- Text in which each occurrence of `old` gives way to `new`. -/
def replaceAll (old new text : List Char) : List Char :=
  joinWith new (splitOn old text)

end PageBlocks.Text
