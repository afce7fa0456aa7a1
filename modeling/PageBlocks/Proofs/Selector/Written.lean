import Mathlib.Data.List.TakeWhile
import PageBlocks.Cell.MarkedSelector
import PageBlocks.Selector.Match
/-!
# How plain selectors are written

A plain selector asks for names, identifiers, classes and attributes of an element and of those
around it.  So it tells nothing apart that has the same tags from the element up to the top, whatever
is beside or below it.  Only where a vocabulary is written in front of a name it counts besides
whether the page keeps vocabularies at all.

A text that consists of tests for names, identifiers, classes and attributes with descendant and
child combinators between them reads as a plain selector, and so does the name of an attribute in
brackets.  A selector and a marker with text to be removed behind it come apart again where they
were put together, except that the selector is trimmed.

## Main results

* `Selector.Plain.holds_eq` — plain selectors hold at spots with the same tags alike.
* `Selector.parse?_plain` — what a plain text reads as.
* `Selector.isPlainText_brackets` — an attribute in brackets is plain text.
* `MarkedSelector.splitSearch_append` — a selector and the text to be removed come apart.
-/

namespace PageBlocks

section

/-- Two spots of the same node with the same tag, and with the same tags around them. -/
inductive Spot.Alike : Spot → Spot → Prop where
  | top {node other : Node} (hid : node.id = other.id) (htag : node.tag? = other.tag?) :
      Alike (.top node) (.top other)
  | inside {parent parent' : Spot} {node other : Node} {before before' : List Node}
      {after after' : Forest} (hparent : Alike parent parent') (hid : node.id = other.id)
      (htag : node.tag? = other.tag?) :
      Alike (.inside parent before node after) (.inside parent' before' other after')

/-! ## Vocabularies -/

/-- Is no vocabulary asked for? -/
def NamePrefix.isBare : NamePrefix → Bool
  | unwritten | anything => true
  | nothing | declared _ => false

/-- Does a test ask for no vocabulary in front of a name? -/
def Test.isBare : Test → Bool
  | .name namePrefix _ => namePrefix.isBare
  | .attribute condition => condition.namePrefix.isBare
  | _ => true

/-- Is no vocabulary written in front of any name of a selector? -/
def Selector.isBare : Selector → Bool
  | always | never => true
  | test condition => condition.isBare
  | both first second | either first second => first.isBare && second.isBare
  | not condition | follows _ condition | has _ condition => condition.isBare
  | place _ _ _ _ among => among.isBare

variable {query other : Query} {tag : Tag}

theorem NamePrefix.admits_eq {namePrefix : NamePrefix}
    (h : namePrefix.isBare = true ∨ query.hasVocabularies = other.hasVocabularies) (tag : Tag) :
    namePrefix.admits query tag = namePrefix.admits other tag := by
  cases namePrefix with
  | unwritten | anything | declared _ => rfl
  | nothing =>
    rcases h with h | h
    · cases h
    · rw [admits, admits, h]

theorem AttributeTest.holds_eq {condition : AttributeTest}
    (h : condition.namePrefix.isBare = true ∨ query.hasVocabularies = other.hasVocabularies)
    (tag : Tag) : condition.holds query tag = condition.holds other tag := by
  obtain ⟨namePrefix, name, comparison, value, ignoresCase⟩ := condition
  cases namePrefix with
  | unwritten | anything | nothing => rfl
  | declared vocabulary =>
    rcases h with h | h
    · cases h
    · rw [holds, holds, h]

/-! ## What plain selectors hold at -/

namespace Spot.Alike

variable {spot spot' : Spot}

theorem id_eq (h : spot.Alike spot') : spot.id = spot'.id := by
  cases h with
  | top hid htag => exact hid
  | inside hparent hid htag => exact hid

theorem tag?_eq (h : spot.Alike spot') : spot.node.tag? = spot'.node.tag? := by
  cases h with
  | top hid htag => exact htag
  | inside hparent hid htag => exact htag

theorem any_ancestors (h : spot.Alike spot') {f g : Spot → Bool}
    (hfg : ∀ above above', above.Alike above' → f above = g above') :
    spot.ancestors.any f = spot'.ancestors.any g := by
  induction h with
  | top hid htag => rfl
  | inside hparent hid htag ih =>
    rw [ancestors, ancestors, List.any_cons, List.any_cons, hfg _ _ hparent, ih]

theorem any_parent (h : spot.Alike spot') {f g : Spot → Bool}
    (hfg : ∀ above above', above.Alike above' → f above = g above') :
    spot.parent?.toList.any f = spot'.parent?.toList.any g := by
  cases h with
  | top hid htag => rfl
  | inside hparent hid htag =>
    show (f _ || false) = (g _ || false)
    rw [hfg _ _ hparent]

end Spot.Alike

/-- Plain selectors hold at spots with the same tags alike, if these agree on vocabularies or none
is asked for. -/
theorem Selector.Plain.holds_eq {selector : Selector} (hs : selector.Plain)
    (hq : selector.isBare = true ∨ query.hasVocabularies = other.hasVocabularies)
    {spot spot' : Spot} (h : spot.Alike spot') :
    selector.holds query spot = selector.holds other spot' := by
  induction hs generalizing spot spot' with
  | always => rfl
  | name namePrefix name =>
    show spot.node.tag?.any _ = spot'.node.tag?.any _
    rw [h.tag?_eq]
    congr 1
    funext tag
    rw [Test.holds, Test.holds, NamePrefix.admits_eq hq tag]
  | identity value =>
    show spot.node.tag?.any _ = spot'.node.tag?.any _
    rw [h.tag?_eq]; rfl
  | className value =>
    show spot.node.tag?.any _ = spot'.node.tag?.any _
    rw [h.tag?_eq]; rfl
  | hasAttribute condition =>
    show spot.node.tag?.any _ = spot'.node.tag?.any _
    rw [h.tag?_eq]
    congr 1
    funext tag
    exact AttributeTest.holds_eq hq tag
  | lacksAttribute condition =>
    show (!spot.node.tag?.any _) = !spot'.node.tag?.any _
    rw [h.tag?_eq]
    congr 2
    funext tag
    exact AttributeTest.holds_eq hq tag
  | both _ _ ihf ihs =>
    rw [isBare, Bool.and_eq_true] at hq
    rw [holds_both, holds_both, ihf (hq.imp_left And.left) h, ihs (hq.imp_left And.right) h]
  | descendant _ ih => exact h.any_ancestors fun _ _ habove => ih hq habove
  | child _ ih => exact h.any_parent fun _ _ habove => ih hq habove

end

open PageBlocks.Text

namespace Selector

/-! ## Plain tokens -/

/-- A token of a test that looks at the tag of an element, or of a combinator that looks up. -/
def Token.isPlain : Token → Bool
  | test (.identity _) | test (.className _) | test (.attribute _) => true
  | name _ _ | unequal _ => true
  | separator (.combinator .descendant) | separator (.combinator .child) => true
  | _ => false

/-- Does a token ask for no vocabulary? -/
def Token.isBare : Token → Bool
  | test condition => condition.isBare
  | name namePrefix _ => namePrefix.isBare
  | unequal condition => condition.namePrefix.isBare
  | _ => true

/-- A selector that looks up only and, if that is asked for, mentions no vocabulary. -/
def IsPlain (bare : Bool) (selector : Selector) : Prop :=
  selector.Plain ∧ (bare = true → selector.isBare = true)

/-- Does a text consist of plain tokens and, if that is asked for, of such without vocabularies? -/
def isPlainText (bare : Bool) (text : List Char) : Bool :=
  ((tokens? text).getD []).all fun token => token.isPlain && (!bare || token.isBare)

variable {bare : Bool}

theorem IsPlain.both {first second : Selector} (h : first.IsPlain bare) (h' : second.IsPlain bare) :
    (Selector.both first second).IsPlain bare :=
  ⟨.both h.1 h'.1, fun hb => Bool.and_eq_true_iff.2 ⟨h.2 hb, h'.2 hb⟩⟩

theorem isPlain_all {conditions : List Selector} (h : ∀ s ∈ conditions, s.IsPlain bare) :
    (all conditions).IsPlain bare := by
  induction conditions with
  | nil => exact ⟨.always, fun _ => rfl⟩
  | cons condition rest ih =>
    have hfirst := h condition List.mem_cons_self
    cases rest with
    | nil => exact hfirst
    | cons next rest => exact hfirst.both (ih fun s hs => h s (List.mem_cons_of_mem _ hs))

namespace Group

/-- The group of a selector that has been read so far as plain. -/
structure IsPlain (bare : Bool) (group : Group) : Prop where
  kind : group.kind = .whole
  alternatives : group.alternatives = []
  front : ∀ s ∈ group.front, s.IsPlain bare
  conditions : ∀ s ∈ group.conditions, s.IsPlain bare

variable {group : Group}

theorem IsPlain.current (h : group.IsPlain bare) : group.current.IsPlain bare := by
  refine isPlain_all fun s hs => ?_
  rcases List.mem_append.1 hs with hs | hs
  · exact h.conditions s hs
  · exact h.front s (Option.mem_toList.1 hs)

theorem IsPlain.add {condition : Selector} (h : group.IsPlain bare)
    (hc : condition.IsPlain bare) : (group.add condition).IsPlain bare where
  kind := h.kind
  alternatives := h.alternatives
  front := h.front
  conditions s hs := by
    rcases List.mem_append.1 hs with hs | hs
    · exact h.conditions s hs
    · rw [List.mem_singleton.1 hs]
      exact hc

theorem IsPlain.isForward (h : group.IsPlain bare) : group.isForward = false := by
  rw [Group.isForward, h.kind]; rfl

theorem IsPlain.isForgiving (h : group.IsPlain bare) : group.isForgiving = false := by
  rw [Group.isForgiving, h.kind]; rfl

theorem IsPlain.combine {combinator : Combinator} {after : Group} (h : group.IsPlain bare)
    (hc : combinator = .descendant ∨ combinator = .child)
    (hafter : group.combine? combinator = some after) : after.IsPlain bare := by
  rw [combine?, h.isForward] at hafter
  simp only [Bool.false_eq_true, if_false] at hafter
  split at hafter
  · cases hafter
  · cases hafter
    refine ⟨h.kind, h.alternatives, fun s hs => ?_, fun s hs => by cases hs⟩
    cases hs
    have hcurrent := h.current
    rcases hc with rfl | rfl
    · exact ⟨.descendant hcurrent.1, hcurrent.2⟩
    · exact ⟨.child hcurrent.1, hcurrent.2⟩

theorem IsPlain.finish {selector : Selector} (h : group.IsPlain bare)
    (hs : group.finish? = some selector) : selector.IsPlain bare := by
  rw [finish?, h.isForgiving, comma?, h.isForgiving, h.isForward] at hs
  simp only [Bool.false_and, Bool.false_eq_true, if_false] at hs
  split at hs
  · cases hs
  · cases hs
    show (any (group.current :: group.alternatives).reverse).IsPlain bare
    rw [h.alternatives]
    exact h.current

end Group

theorem plain_of_isPlain {condition : Test} (h : (Token.test condition).isPlain = true) :
    (test condition).Plain := by
  cases condition <;> first
    | exact .identity _
    | exact .className _
    | exact .hasAttribute _
    | cases h

/-- A plain token keeps a group plain. -/
theorem step?_plain {group : Group} {token : Token} {groups : List Group}
    (h : group.IsPlain bare) (ht : token.isPlain = true) (hb : bare = true → token.isBare = true)
    (hs : step? [group] token = some groups) : ∃ after, groups = [after] ∧ after.IsPlain bare := by
  have htest {condition : Selector} (hc : condition.IsPlain bare) :
      ∃ after, [group.add condition] = [after] ∧ after.IsPlain bare := ⟨_, rfl, h.add hc⟩
  cases token with
  | close | place _ | openPlace _ | state _ | openState _ => cases ht
  | test condition =>
    cases hs
    exact htest ⟨plain_of_isPlain ht, hb⟩
  | unequal condition =>
    cases hs
    exact htest ⟨.lacksAttribute condition, hb⟩
  | name namePrefix name =>
    rw [step?] at hs
    split at hs
    · cases hs
      exact htest ⟨.name namePrefix name, hb⟩
    · cases hs
  | separator mark =>
    cases mark with
    | comma => cases ht
    | combinator combinator =>
      obtain ⟨after, hafter, rfl⟩ := Option.map_eq_some_iff.1 hs
      refine ⟨after, rfl, h.combine ?_ hafter⟩
      cases combinator with
      | descendant => exact .inl rfl
      | child => exact .inr rfl
      | nextSibling | laterSibling => cases ht

theorem foldlM_step?_plain {tokens : List Token} {group : Group} {groups : List Group}
    (h : group.IsPlain bare)
    (ht : ∀ token ∈ tokens, token.isPlain = true ∧ (bare = true → token.isBare = true))
    (hs : tokens.foldlM step? [group] = some groups) :
    ∃ after, groups = [after] ∧ after.IsPlain bare := by
  induction tokens generalizing group with
  | nil =>
    cases hs
    exact ⟨group, rfl, h⟩
  | cons token tokens ih =>
    rw [List.foldlM_cons] at hs
    obtain ⟨middle, hfirst, hrest⟩ := Option.bind_eq_some_iff.1 hs
    obtain ⟨hplain, hbare⟩ := ht token List.mem_cons_self
    obtain ⟨after, rfl, hafter⟩ := step?_plain h hplain hbare hfirst
    exact ih hafter (fun other ho => ht other (List.mem_cons_of_mem _ ho)) hrest

/-- A plain text reads as a plain selector. -/
theorem parse?_plain {text : List Char} {selector : Selector} (h : isPlainText bare text = true)
    (hs : parse? text = some selector) : selector.IsPlain bare := by
  rw [parse?] at hs
  split at hs
  · cases hs
  · obtain ⟨tokens, htokens, hof⟩ := Option.bind_eq_some_iff.1 hs
    rw [isPlainText, htokens, Option.getD_some, List.all_eq_true] at h
    have hall : ∀ token ∈ tokens, token.isPlain = true ∧ (bare = true → token.isBare = true) := by
      intro token hin
      obtain ⟨hplain, hbare⟩ := Bool.and_eq_true_iff.1 (h token hin)
      refine ⟨hplain, fun hb => ?_⟩
      rw [hb] at hbare
      exact hbare
    have hstart : (Group.start .whole).IsPlain bare :=
      { kind := rfl
        alternatives := rfl
        front := fun s hs => by cases hs
        conditions := fun s hs => by cases hs }
    rw [ofTokens?] at hof
    cases hfold : tokens.foldlM step? [Group.start .whole] with
    | none =>
      rw [hfold] at hof
      cases hof
    | some groups =>
      obtain ⟨after, rfl, hafter⟩ := foldlM_step?_plain hstart hall hfold
      rw [hfold] at hof
      exact hafter.finish hof

/-! ## Attributes in brackets -/

/-- A name without escapes. -/
def isPlainName : List Char → Bool
  | c :: rest => Lexeme.isNameStart c && rest.all Lexeme.isNameChar
  | [] => false

theorem isNameChar_of_isPlainName {name : List Char} (h : isPlainName name = true) :
    ∀ c ∈ name, Lexeme.isNameChar c = true := by
  cases name with
  | nil => cases h
  | cons c rest =>
    obtain ⟨hstart, hrest⟩ := Bool.and_eq_true_iff.1 h
    rw [List.all_eq_true] at hrest
    intro d hd
    rcases List.mem_cons.1 hd with rfl | hd
    · rw [Lexeme.isNameChar, hstart]; rfl
    · exact hrest d hd

namespace Lexeme

/-- Characters that belong to no gap, and are not the one that stands for nothing. -/
def IsSolid (c : Char) : Prop :=
  isSpace c = false ∧ c ≠ '/' ∧ c.toNat ≠ 0

theorem isSolid_of_isNameChar {c : Char} (h : isNameChar c = true) : IsSolid c := by
  have hne (d : Char) (hd : isNameChar d = false) : c ≠ d := by
    rintro rfl
    rw [h] at hd
    cases hd
  have hnat {n : Nat} (hn : isNameChar (Char.ofNat n) = false) : c.toNat ≠ n := by
    intro heq
    refine hne (Char.ofNat n) hn ?_
    rw [← heq, Char.ofNat_toNat]
  refine ⟨?_, hne '/' (by decide), hnat (by decide)⟩
  rw [isSpace]
  simp only [Bool.or_eq_false_iff, decide_eq_false_iff_not]
  exact ⟨⟨⟨⟨hne ' ' (by decide), hne '\t' (by decide)⟩, hne '\n' (by decide)⟩,
    hne '\r' (by decide)⟩, hnat (by decide)⟩

theorem dropGaps_cons {c : Char} (h : IsSolid c) (rest : List Char) :
    dropGaps (c :: rest) = c :: rest := by
  obtain ⟨hspace, hslash, _⟩ := h
  have hreturn : c ≠ '\r' := by
    rintro rfl
    cases hspace
  have hlength : spaceLength (c :: rest) = 0 := by
    rw [spaceLength.eq_def]
    split
    · next heq => exact absurd (List.cons.inj heq).1 hreturn
    · next heq =>
      rw [← (List.cons.inj heq).1, hspace]; rfl
    · rfl
  have hcomment : commentLength (c :: rest) = 0 := by
    rw [commentLength.eq_def]
    split
    · next heq => exact absurd (List.cons.inj heq).1 hslash
    · rfl
  have hgap : gapLength (c :: rest) = 0 := by
    rw [gapLength, if_pos hlength, hcomment]
  rw [dropGaps, gapsLength, gapsFrom, hgap]
  rfl

theorem nameLength_append {name : List Char} (h : ∀ c ∈ name, isNameChar c = true) {d : Char}
    (hd : isNameChar d = false) (hescape : d ≠ '\\') (rest : List Char) :
    nameLength 0 (name ++ d :: rest) = name.length := by
  induction name with
  | nil =>
    rw [List.nil_append, nameLength, hd, if_neg hescape]; rfl
  | cons c name ih =>
    rw [List.cons_append, nameLength, if_pos (h c List.mem_cons_self),
      ih fun c hc => h c (List.mem_cons_of_mem _ hc), List.length_cons]

/-- A plain name is read up to its end. -/
theorem readIdentifier?_append {name : List Char} (h : isPlainName name = true) {d : Char}
    (hd : isNameChar d = false) (hescape : d ≠ '\\') (rest : List Char) :
    readIdentifier? (name ++ d :: rest) = some (name, d :: rest) := by
  have hlength := nameLength_append (isNameChar_of_isPlainName h) hd hescape rest
  cases name with
  | nil => cases h
  | cons c name =>
    have hstart := (Bool.and_eq_true_iff.1 h).1
    have hdash : c ≠ '-' := by
      rintro rfl
      cases hstart
    have hidentifier : identifierLength (c :: (name ++ d :: rest)) = name.length + 1 := by
      rw [identifierLength.eq_def]
      split
      · next heq => exact absurd (List.cons.inj heq).1 hdash
      · next heq => exact absurd (List.cons.inj heq).1 hdash
      · rw [startsName, hstart]
        exact hlength
    rw [readIdentifier?, List.cons_append, hidentifier]
    show some ((c :: (name ++ d :: rest)).take (name.length + 1),
      (c :: (name ++ d :: rest)).drop (name.length + 1)) = _
    rw [← List.cons_append, ← List.length_cons, List.take_left, List.drop_left]

end Lexeme

theorem trailingGapLength_of_isSolid {text : List Char} (h : ∀ c ∈ text, Lexeme.IsSolid c) :
    trailingGapLength text = 0 := by
  induction text with
  | nil => rfl
  | cons c rest ih =>
    have hsolid := h c List.mem_cons_self
    have hend : isGap (c :: rest) = false := by
      rw [isGap, Lexeme.dropGaps_cons hsolid, Lexeme.isAtEnd]
      have hline : c ≠ '\n' := by
        rintro rfl
        cases hsolid.1
      simp [hline]
    rw [trailingGapLength, hend]
    exact ih fun c hc => h c (List.mem_cons_of_mem _ hc)

/-- An attribute in brackets asks whether the attribute is there. -/
theorem readAttribute?_name {name : List Char} (h : isPlainName name = true) :
    readAttribute? (name ++ [']']) =
      some (.test (.attribute ⟨.unwritten, String.ofList name, .present, [], false⟩), []) := by
  have hread : Lexeme.readIdentifier? (name ++ [']']) = some (name, [']']) :=
    Lexeme.readIdentifier?_append h (by decide) (by decide) []
  have hmeaning : Lexeme.nameMeaning? name = some (String.ofList name) := by
    have hescape : '\\' ∉ name := fun hin => by
      have hchar := isNameChar_of_isPlainName h _ hin
      revert hchar
      decide
    rw [Lexeme.nameMeaning?, Lexeme.unescape_of_plain hescape]; rfl
  have hname : readName? (name ++ [']']) = some (String.ofList name, [']']) := by
    rw [readName?, hread]
    show (Lexeme.nameMeaning? name).bind _ = _
    rw [hmeaning]; rfl
  have hprefixed : readPrefixed? readName? (name ++ [']']) =
      some (.unwritten, String.ofList name, [']']) := by
    cases name with
    | nil => cases h
    | cons c name =>
      have hstart := (Bool.and_eq_true_iff.1 h).1
      have hbar : c ≠ '|' := by
        rintro rfl
        cases hstart
      have hstar : c ≠ '*' := by
        rintro rfl
        cases hstart
      rw [readPrefixed?, hread]
      · show ((readName? (c :: name ++ [']'])).map _) = _
        rw [hname]; rfl
      · intro rest heq
        exact hbar (List.cons.inj heq).1
      · intro rest heq
        exact hstar (List.cons.inj heq).1
  have hgaps : Lexeme.dropGaps (name ++ [']']) = name ++ [']'] := by
    cases name with
    | nil => cases h
    | cons c name =>
      have hchar := isNameChar_of_isPlainName h c List.mem_cons_self
      exact Lexeme.dropGaps_cons (Lexeme.isSolid_of_isNameChar hchar) _
  rw [readAttribute?, hgaps, hprefixed]
  rfl

theorem isSolid_bracket : Lexeme.IsSolid '[' ∧ Lexeme.IsSolid ']' := by
  refine ⟨⟨?_, ?_, ?_⟩, ⟨?_, ?_, ?_⟩⟩ <;> decide

/-- The name of an attribute in brackets is plain text. -/
theorem isPlainText_brackets {name : List Char} (h : isPlainName name = true) (bare : Bool) :
    isPlainText bare ('[' :: (name ++ [']'])) = true := by
  have hsolid : ∀ c ∈ '[' :: (name ++ [']']), Lexeme.IsSolid c := by
    intro c hc
    rcases List.mem_cons.1 hc with rfl | hc
    · exact isSolid_bracket.1
    · rcases List.mem_append.1 hc with hc | hc
      · exact Lexeme.isSolid_of_isNameChar (isNameChar_of_isPlainName h c hc)
      · rw [List.mem_singleton.1 hc]
        exact isSolid_bracket.2
  have hmap : (('[' :: (name ++ [']'])).map fun c =>
      if c.toNat = 0 then Lexeme.replacementCharacter else c) = '[' :: (name ++ [']']) := by
    rw [List.map_congr_left fun c hc => if_neg (hsolid c hc).2.2, List.map_id']
  have htoken : readToken? ('[' :: (name ++ [']'])) =
      some (.test (.attribute ⟨.unwritten, String.ofList name, .present, [], false⟩), []) := by
    rw [readToken?, readClose?, Lexeme.dropGaps_cons isSolid_bracket.1]
    exact readAttribute?_name h
  have htokens : tokens? ('[' :: (name ++ [']'])) =
      some [.test (.attribute ⟨.unwritten, String.ofList name, .present, [], false⟩)] := by
    rw [tokens?, hmap, Lexeme.dropGaps_cons isSolid_bracket.1, trailingGapLength_of_isSolid hsolid,
      List.length_cons, readTokens?, htoken]
    rfl
  rw [isPlainText, htokens]
  cases bare <;> rfl

end Selector

/-! ## Text to be removed -/

namespace MarkedSelector

variable {front literal : List Char}

theorem searchMarker_eq : searchMarker = [':', ':', 't', 'e', 'x', 't', '('] := rfl

/-- The marker of text to be removed does not begin in front of its place, since no end of it is
the start of another one. -/
theorem dropLeading?_searchMarker (h : asksForText front = false) (hne : front ≠ [])
    (after : List Char) : dropLeading? searchMarker (front ++ (searchMarker ++ after)) = none := by
  refine Option.eq_none_iff_forall_ne_some.2 fun rest hrest => ?_
  have heq := dropLeading?_eq_some_iff.1 hrest
  rw [searchMarker_eq] at heq
  match front, hne with
  | [_], _ | [_, _], _ | [_, _, _], _ | [_, _, _, _], _ | [_, _, _, _, _], _ =>
    simp only [List.cons_append, List.nil_append, List.cons.injEq, Char.reduceEq, false_and,
      and_false] at heq
  | c₁ :: c₂ :: c₃ :: c₄ :: c₅ :: c₆ :: more, _ =>
    simp only [List.cons_append, List.cons.injEq] at heq
    obtain ⟨rfl, rfl, rfl, rfl, rfl, rfl, _⟩ := heq
    cases h

theorem searchMarker_append (after : List Char) :
    searchMarker ++ after = ':' :: (":text(".toList ++ after) := rfl

theorem asksForText_tail {c : Char} (h : asksForText (c :: front) = false) :
    asksForText front = false :=
  (Bool.or_eq_false_iff.1 h).2

theorem asksForText_append (front after : List Char) :
    asksForText (front ++ (searchMarker ++ after)) = true := by
  induction front with
  | nil => rfl
  | cons c front ih => exact Bool.or_eq_true_iff.2 (.inr ih)

theorem dropSearches_of_length_le {inside : Nat} {text : List Char} (h : text.length ≤ inside) :
    dropSearches inside text = [] := by
  induction text generalizing inside with
  | nil => cases inside <;> rfl
  | cons c text ih =>
    cases inside with
    | zero => exact absurd h (Nat.not_succ_le_zero _)
    | succ inside => exact ih (Nat.le_of_succ_le_succ h)

/-- The text in the marker ends where it is closed for the first time. -/
theorem exists_upToClosing? (hline : '\n' ∉ literal) :
    ∃ after, upToClosing? (literal ++ [')']) = some (literal.takeWhile (· ≠ ')'), after) := by
  induction literal with
  | nil => exact ⟨[], rfl⟩
  | cons c literal ih =>
    by_cases hc : c = ')'
    · subst hc
      exact ⟨literal ++ [')'], rfl⟩
    · rw [List.mem_cons, not_or] at hline
      obtain ⟨after, hafter⟩ := ih hline.2
      have htake : (c :: literal).takeWhile (· ≠ ')') = c :: literal.takeWhile (· ≠ ')') :=
        List.takeWhile_cons_of_pos (decide_eq_true hc)
      refine ⟨after, ?_⟩
      rw [List.cons_append, upToClosing?, hafter, htake]
      · rfl
      · exact hc
      · exact fun h => hline.1 h.symm

/-- The marker ends where it is closed for the last time. -/
theorem afterLastClosing?_append (hline : '\n' ∉ literal) :
    afterLastClosing? (literal ++ [')']) = some [] := by
  induction literal with
  | nil => rfl
  | cons c literal ih =>
    rw [List.mem_cons, not_or] at hline
    by_cases hc : c = ')'
    · subst hc
      rw [List.cons_append, afterLastClosing?, ih hline.2, Option.some_or]
    · rw [List.cons_append, afterLastClosing?, ih hline.2]
      · exact fun h => hline.1 h.symm
      · exact hc

theorem searchedText?_append (h : asksForText front = false) (hline : '\n' ∉ literal) :
    searchedText? (front ++ (searchMarker ++ (literal ++ [')']))) =
      some (literal.takeWhile (· ≠ ')')) := by
  induction front with
  | nil =>
    obtain ⟨after, hafter⟩ := exists_upToClosing? hline
    have hfound : (dropLeading? searchMarker (searchMarker ++ (literal ++ [')']))).bind upToClosing? =
        some (literal.takeWhile (· ≠ ')'), after) := by
      rw [dropLeading?_eq_some_iff.2 rfl, Option.bind_some, hafter]
    rw [searchMarker_append] at hfound ⊢
    rw [List.nil_append, searchedText?, hfound]
  | cons c front ih =>
    have hnone := dropLeading?_searchMarker h (List.cons_ne_nil c front) (literal ++ [')'])
    rw [List.cons_append] at hnone ⊢
    rw [searchedText?, hnone]
    exact ih (asksForText_tail h)

theorem dropSearches_append (h : asksForText front = false) (hline : '\n' ∉ literal) :
    dropSearches 0 (front ++ (searchMarker ++ (literal ++ [')']))) = front := by
  induction front with
  | nil =>
    have hfound : (dropLeading? searchMarker (searchMarker ++ (literal ++ [')']))).bind
        afterLastClosing? = some [] := by
      rw [dropLeading?_eq_some_iff.2 rfl, Option.bind_some, afterLastClosing?_append hline]
    rw [searchMarker_append] at hfound ⊢
    rw [List.nil_append, dropSearches, hfound]
    exact dropSearches_of_length_le (Nat.le_refl _)
  | cons c front ih =>
    have hnone := dropLeading?_searchMarker h (List.cons_ne_nil c front) (literal ++ [')'])
    rw [List.cons_append] at hnone ⊢
    rw [dropSearches, hnone]
    exact congrArg (c :: ·) (ih (asksForText_tail h))

/-- A selector and the literal behind it come apart, with the selector trimmed and the literal up to
where it has a closing parenthesis. -/
theorem splitSearch_literal (h : asksForText front = false) (hline : '\n' ∉ literal) :
    splitSearch (front ++ (searchMarker ++ (literal ++ [')']))) =
      (trim front, some (literal.takeWhile (· ≠ ')'))) := by
  rw [splitSearch, dropSearches_append h hline, searchedText?_append h hline]

/-- A literal without closing parentheses is all in the marker. -/
theorem takeWhile_not_closing_iff : literal.takeWhile (· ≠ ')') = literal ↔ ')' ∉ literal := by
  rw [List.takeWhile_eq_self_iff]
  exact ⟨fun h hmem => of_decide_eq_true (h _ hmem) rfl,
    fun h c hc => decide_eq_true fun heq => h (heq ▸ hc)⟩

/-- A selector and the text to be removed behind it come apart, with the selector trimmed. -/
theorem splitSearch_append (h : asksForText front = false) (hclose : ')' ∉ literal)
    (hline : '\n' ∉ literal) :
    splitSearch (front ++ (searchMarker ++ (literal ++ [')']))) = (trim front, some literal) := by
  rw [splitSearch_literal h hline, takeWhile_not_closing_iff.2 hclose]

end MarkedSelector

end PageBlocks
