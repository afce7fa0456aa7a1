import PageBlocks.Page.Reading
import PageBlocks.Proofs.Html.Names
import PageBlocks.Proofs.Html.Harmless
import PageBlocks.Sanitize.Basic
/-!
# Fragments and what is left of them

Conditions on all elements of a fragment, and what is known of the elements that are left when
unsafe parts have been taken out: they are known elements, and their attributes are those of an
element of the markup after cleaning.

An attribute is legible when it is read back as the attribute that it was.  Not all attributes are:
markup may write names that start with an equals sign or hold control characters.

## Main results

* `Fragment.every_ofEvents` — the names of attributes are as names are read.
* `every_bodyOf?` — the content of the body meets the condition of the page.
* `every_prune` — what is left of a fragment.
-/

namespace PageBlocks

open Html (WrittenAttributes ReadEntries)
open Html.Lenient (Event)

namespace Fragment

/-- All elements of a fragment meet a condition. -/
def Every (p : String → WrittenAttributes → Prop) : Fragment → Prop
  | nil => True
  | text _ next => next.Every p
  | remark next => next.Every p
  | element name attributes children next =>
    p name attributes ∧ children.Every p ∧ next.Every p

instance decidableEvery {p : String → WrittenAttributes → Prop}
    [∀ name attributes, Decidable (p name attributes)] :
    ∀ fragment : Fragment, Decidable (fragment.Every p)
  | nil => inferInstanceAs (Decidable True)
  | text _ next => decidableEvery next
  | remark next => decidableEvery next
  | element name attributes children next =>
    have := decidableEvery (p := p) children
    have := decidableEvery (p := p) next
    inferInstanceAs (Decidable (p name attributes ∧ children.Every p ∧ next.Every p))

variable {p q : String → WrittenAttributes → Prop} {fragment : Fragment}

theorem Every.and (hp : fragment.Every p) (hq : fragment.Every q) :
    fragment.Every fun name attributes => p name attributes ∧ q name attributes := by
  induction fragment with
  | nil => trivial
  | text content next ih => exact ih hp hq
  | remark next ih => exact ih hp hq
  | element name attributes children next ihc ihn =>
    exact ⟨⟨hp.1, hq.1⟩, ihc hp.2.1 hq.2.1, ihn hp.2.2 hq.2.2⟩

theorem Every.consText (h : fragment.Every p) (content : List Char) :
    (consText content fragment).Every p := by
  cases fragment with
  | text more next => exact h
  | nil | remark | element =>
    simp only [Fragment.consText]
    split <;> exact h

theorem Every.append {first second : Fragment} (hfirst : first.Every p) (hsecond : second.Every p) :
    (first.append second).Every p := by
  induction first with
  | nil => exact hsecond
  | text content next ih => exact (ih hfirst).consText content
  | remark next ih => exact ih hfirst
  | element name attributes children next _ ih => exact ⟨hfirst.1, hfirst.2.1, ih hfirst.2.2⟩

theorem Every.dropLeadingText (h : fragment.Every p) : fragment.dropLeadingText.Every p := by
  cases fragment <;> exact h

theorem Every.of_mem_childrenOf (h : fragment.Every p) {name : String} {children : Fragment}
    (hchildren : children ∈ fragment.childrenOf name) : children.Every p := by
  induction fragment with
  | nil => cases hchildren
  | text content next ih => exact ih h hchildren
  | remark next ih => exact ih h hchildren
  | element own attributes inside next _ ih =>
    unfold childrenOf at hchildren
    split at hchildren
    · rcases List.mem_cons.1 hchildren with rfl | hnext
      · exact h.2.1
      · exact ih h.2.2 hnext
    · exact ih h.2.2 hchildren

/-- An event keeps the condition on what is put together from the events behind it. -/
theorem every_takeEvent {event : Event} (hevent : event.Named) {levels : List Fragment}
    (h : ∀ level ∈ levels, level.Every fun _ attributes => ReadEntries attributes) :
    ∀ level ∈ takeEvent event levels, level.Every fun _ attributes => ReadEntries attributes := by
  unfold takeEvent
  split
  · exact List.forall_mem_cons.2 ⟨trivial, h⟩
  · simp only [List.forall_mem_cons] at h ⊢
    exact ⟨⟨hevent, h.1, h.2.1⟩, h.2.2⟩
  · simp only [List.forall_mem_cons] at h ⊢
    exact ⟨h.1.consText _, h.2⟩
  · simp only [List.forall_mem_cons] at h ⊢
    exact h
  · exact h

/-- The names of attributes are as names are read. -/
theorem every_ofEvents {events : List Event} (h : ∀ event ∈ events, event.Named) :
    (ofEvents events).Every fun _ attributes => ReadEntries attributes := by
  have hlevels : ∀ level ∈ events.foldr takeEvent [nil],
      level.Every fun _ attributes => ReadEntries attributes := by
    induction events with
    | nil => simp [Every]
    | cons event rest ih =>
      rw [List.forall_mem_cons] at h
      exact every_takeEvent h.1 (ih h.2)
  unfold ofEvents
  cases hfolded : events.foldr takeEvent [nil] with
  | nil => trivial
  | cons level outer =>
    rw [hfolded] at hlevels
    exact hlevels level List.mem_cons_self

end Fragment

namespace Sanitize

/-! ## The body -/

theorem every_bodyOf? {p : String → WrittenAttributes → Prop} {page body : Fragment}
    (hpage : page.Every p) (h : bodyOf? page = .ok body) : body.Every p := by
  unfold bodyOf? at h
  dsimp only at h
  split at h
  · next root hroot =>
    have hroot : root.Every p := hpage.of_mem_childrenOf (List.mem_of_mem_head? hroot)
    split at h
    · next only honly =>
      have hbody : only.Every p := hroot.of_mem_childrenOf (honly ▸ List.mem_cons_self)
      split at h
      · cases h
        exact hbody.dropLeadingText
      · split at h
        · cases h
        · cases h
          exact hbody
    · cases h
  · cases h

/-! ## Legible attributes -/

/-- Is an attribute read back as the attribute that it was?  The name does not start with an equals
sign and holds no control characters.  Of an address that is written without escapes, the control
characters are all taken for hiding a scheme. -/
def isLegible (entry : String × Option String) : Bool :=
  entry.1.toList.head? ≠ some '=' && !entry.1.toList.any isForbiddenControl &&
    (entry.1 ≠ "formaction" ||
      (entry.2.getD "").toList.all fun c => !isControl c || hidesScheme c)

/-- All attributes of a fragment are legible. -/
structure Legible (fragment : Fragment) : Prop where
  every : fragment.Every fun _ attributes => attributes.all isLegible = true

instance (fragment : Fragment) : Decidable (Legible fragment) :=
  decidable_of_iff (fragment.Every fun _ attributes => attributes.all isLegible = true)
    ⟨.mk, Legible.every⟩

/-- The page that markup is taken for before it is cleaned. -/
def readPage (text : List Char) : Fragment :=
  .ofEvents (Html.Lenient.events ((asPage text).map replaceNull))

/-! ## What is left -/

/-- The name of an element that is left, with its attributes after cleaning. -/
structure IsKept (policy : Policy) (name : String) (attributes : WrittenAttributes) : Prop where
  stays : policy.kills name = false
  wrapped : policy.unwraps name = false
  cleaned : ∃ old, ReadEntries old ∧ old.all isLegible = true ∧ attributes = cleanAttributes old

theorem every_prune (policy : Policy) {fragment : Fragment}
    (h : fragment.Every fun _ attributes => ReadEntries attributes ∧
      attributes.all isLegible = true) :
    (prune policy fragment).Every (IsKept policy) := by
  induction fragment with
  | nil => trivial
  | text content next ih => exact (ih h).consText content
  | remark next ih => exact ih h
  | element written attributes children next ihc ihn =>
    obtain ⟨⟨hread, hlegible⟩, hchildren, hnext⟩ := h
    unfold prune
    dsimp only
    split
    · exact ihn hnext
    · next hkills =>
      split
      · exact (ihc hchildren).append (ihn hnext)
      · next hunwraps =>
        exact ⟨⟨by simpa using hkills, by simpa using hunwraps, attributes, hread, hlegible, rfl⟩,
          ihc hchildren, ihn hnext⟩

end Sanitize

end PageBlocks
