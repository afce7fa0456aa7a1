import PageBlocks.Selector.Match
import PageBlocks.Proofs.Dom.Spots
/-!
# The last test of a selector

In a selector without commas the last compound is about the elements that are found themselves, and all
that is in front of it is about elements around them.  So what is found meets the last test of the
selector, if that stands outside of all parentheses.

While the tokens are put together, the list at the bottom of the open groups is the selector as a whole.
Only a comma would complete an entry of it.

## Main results

* `Selector.foldlM_step?_rests` — without commas the selector as a whole stays a single entry.
* `Selector.holds_of_endsIn` — what meets a selector meets the test that it ends in.
* `Dom.exists_of_mem_select` — what a selector finds is an element that meets it.
-/

namespace PageBlocks

namespace Selector

theorem holds_all_iff {query : Query} {conditions : List Selector} {spot : Spot} :
    (all conditions).holds query spot = true ↔
      ∀ condition ∈ conditions, condition.holds query spot = true := by
  induction conditions with
  | nil => simp [all, holds]
  | cons condition rest ih =>
    cases rest with
    | nil => simp [all]
    | cons next rest =>
      show (both condition (all (next :: rest))).holds query spot = true ↔ _
      rw [holds_both, Bool.and_eq_true_iff, ih]
      exact (List.forall_mem_cons (p := fun condition => holds query condition spot = true)).symm

/-! ## The list at the bottom -/

/-- The group of the selector as a whole, of which no entry is complete. -/
structure Group.IsSole (group : Group) : Prop where
  kind : group.kind = .whole
  alternatives : group.alternatives = []

/-- The innermost group comes first, and the last one is the selector as a whole. -/
def Rests (groups : List Group) : Prop :=
  ∃ base ∈ groups.getLast?, base.IsSole

theorem rests_singleton_iff {group : Group} : Rests [group] ↔ group.IsSole := by
  simp [Rests]

theorem rests_cons_cons_iff {first second : Group} {outer : List Group} :
    Rests (first :: second :: outer) ↔ Rests (second :: outer) := by
  rw [Rests, Rests, List.getLast?_cons_cons]

/-- The innermost group may be changed as long as it stays what it is. -/
theorem Rests.replace {group after : Group} {outer : List Group} (h : Rests (group :: outer))
    (hafter : group.IsSole → after.IsSole) : Rests (after :: outer) := by
  cases outer with
  | nil => exact rests_singleton_iff.2 (hafter (rests_singleton_iff.1 h))
  | cons next outer => exact rests_cons_cons_iff.2 (rests_cons_cons_iff.1 h)

theorem Group.IsSole.add {group : Group} (h : group.IsSole) (condition : Selector) :
    (group.add condition).IsSole :=
  ⟨h.kind, h.alternatives⟩

theorem Group.IsSole.combine {group after : Group} {combinator : Combinator} (h : group.IsSole)
    (hafter : group.combine? combinator = some after) : after.IsSole := by
  have hforward : group.isForward = false := by rw [Group.isForward, h.kind]; rfl
  rw [combine?, hforward, if_neg Bool.false_ne_true] at hafter
  split at hafter
  · cases hafter
  · cases hafter
    exact ⟨h.kind, h.alternatives⟩

/-- A selector that ends as a single entry is its last compound with what is in front of it. -/
theorem Group.IsSole.finish {group : Group} {selector : Selector} (h : group.IsSole)
    (hs : group.finish? = some selector) : selector = group.current := by
  have hforward : group.isForward = false := by rw [Group.isForward, h.kind]; rfl
  have hforgiving : group.isForgiving = false := by rw [Group.isForgiving, h.kind]; rfl
  rw [finish?, comma?, hforward, hforgiving] at hs
  split at hs
  · cases hs
  · simp only [Bool.false_eq_true, if_false] at hs
    cases hs
    rw [Group.complete, h.alternatives]
    rfl

/-! ## Tokens -/

/-- Any token but a comma leaves the selector as a whole at the bottom. -/
theorem step?_rests {groups after : List Group} {token : Token} (h : Rests groups)
    (htoken : token ≠ .separator .comma) (hs : step? groups token = some after) : Rests after := by
  cases groups with
  | nil => cases hs
  | cons group outer =>
    have hadd (condition : Selector) : Rests (group.add condition :: outer) :=
      h.replace fun hsole => hsole.add condition
    cases token with
    | test condition | unequal condition | place counting =>
      cases hs
      exact hadd _
    | name namePrefix name =>
      rw [step?] at hs
      split at hs
      · cases hs
        exact hadd _
      · cases hs
    | state name =>
      obtain ⟨condition, -, rfl⟩ := Option.map_eq_some_iff.1 hs
      exact hadd condition
    | openState name =>
      obtain ⟨kind, -, rfl⟩ := Option.map_eq_some_iff.1 hs
      exact rests_cons_cons_iff.2 h
    | openPlace counting =>
      cases hs
      exact rests_cons_cons_iff.2 h
    | separator mark =>
      cases mark with
      | comma => exact absurd rfl htoken
      | combinator combinator =>
        obtain ⟨combined, hcombined, rfl⟩ := Option.map_eq_some_iff.1 hs
        exact h.replace fun hsole => hsole.combine hcombined
    | close =>
      cases outer with
      | nil => cases hs
      | cons holder further =>
        obtain ⟨alternatives, -, rfl⟩ := Option.map_eq_some_iff.1 hs
        exact (rests_cons_cons_iff.1 h).replace fun hsole => hsole.add _

theorem foldlM_step?_rests {tokens : List Token} {groups after : List Group} (h : Rests groups)
    (htokens : .separator .comma ∉ tokens) (hs : tokens.foldlM step? groups = some after) :
    Rests after := by
  induction tokens generalizing groups with
  | nil =>
    cases hs
    exact h
  | cons token tokens ih =>
    rw [List.foldlM_cons] at hs
    obtain ⟨middle, hfirst, hrest⟩ := Option.bind_eq_some_iff.1 hs
    obtain ⟨hne, htokens⟩ := List.ne_and_not_mem_of_not_mem_cons htokens
    exact ih (step?_rests h hne.symm hfirst) htokens hrest

/-- A selector without commas ends in a test. -/
def EndsIn (text : List Char) (test : Test) : Prop :=
  ∃ front, tokens? text = some (front ++ [.test test]) ∧ .separator .comma ∉ front

/-- The selector that is read has the test that it ends in among the conditions of its last compound. -/
theorem holds_of_endsIn {text : List Char} {last : Test} {selector : Selector} (h : EndsIn text last)
    (hparse : parse? text = some selector) {query : Query} {spot : Spot}
    (hholds : selector.holds query spot = true) : (test last).holds query spot = true := by
  obtain ⟨front, htokens, hcomma⟩ := h
  rw [parse?, htokens] at hparse
  split at hparse
  · cases hparse
  change ofTokens? (front ++ [.test last]) = some selector at hparse
  rw [ofTokens?, List.foldlM_append] at hparse
  cases hfront : front.foldlM step? [Group.start .whole] with
  | none =>
    rw [hfront] at hparse
    cases hparse
  | some groups =>
    have hrests : Rests groups :=
      foldlM_step?_rests (rests_singleton_iff.2 ⟨rfl, rfl⟩) hcomma hfront
    rw [hfront] at hparse
    cases groups with
    | nil => cases hparse
    | cons group outer =>
      cases outer with
      | cons next outer => cases hparse
      | nil =>
        change (group.add (test last)).finish? = some selector at hparse
        have hsole := (rests_singleton_iff.1 hrests).add (test last)
        rw [hsole.finish hparse, Group.current, holds_all_iff] at hholds
        refine hholds _ (List.mem_append_left _ ?_)
        exact List.mem_append_right _ (List.mem_singleton_self _)

end Selector

namespace Dom

variable {dom : Dom} {scope id : NodeId} {selector : Selector}

/-- What a selector finds is an element at a spot where the selector is met. -/
theorem exists_of_mem_select (wf : dom.WellFormed) (h : id ∈ dom.select scope selector) :
    ∃ query spot tag children, selector.holds query spot = true ∧
      spot.node = .element id tag children ∧ dom.find? id = some spot.node := by
  rw [select] at h
  split at h
  · next spot hspot =>
    obtain ⟨below, hbelow, rfl⟩ := List.mem_map.1 h
    obtain ⟨hdesc, hmeets⟩ := List.mem_filter.1 hbelow
    obtain ⟨helement, hholds⟩ := Bool.and_eq_true_iff.1 hmeets
    have hsits := sits_of_mem_descendants (sits_of_spot? hspot).1 hdesc
    rw [Spot.isElement] at helement
    cases hnode : below.node with
    | leaf id content => rw [hnode] at helement; cases helement
    | element id tag children =>
      have hid : below.id = id := by rw [Spot.id, hnode]; rfl
      have hfound := wf.find?_spot hsits
      rw [hid] at hfound ⊢
      exact ⟨_, below, tag, children, hholds, hnode, hfound⟩
  · cases h

end Dom

end PageBlocks
