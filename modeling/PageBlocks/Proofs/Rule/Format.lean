import Mathlib.Data.List.Forall2
import PageBlocks.Json.Basic
/-!
# The format of rule documents

A format says which JSON values are let through, and what a value is once all that may be left out is
told: texts, lists and mappings stay what they are, and a record has all of its fields in their order,
those that were left out with what stands for them.  The format of rule documents is written down as
tables of fields.

A value that a format lets through is kept as a whole when it is completed: the completed value has
more fields in some of its objects, and differs in nothing else.

## Main results

* `Format.record_keepsGiven` — completing a record keeps the fields that were given.
* `Format.ruleDocument_keepsGiven` — completing a rule document keeps all that was given.
-/

namespace PageBlocks

/-! ## Formats -/

/-- Which values there are, and what a value is when nothing of it is left out. -/
structure Format where
  Admits : Json → Prop
  complete : Json → Json

/-- A field of a record. -/
structure Format.Field where
  name : String
  format : Format
  /-- What stands for the field where it may be left out. -/
  standard? : Option Json

namespace Format

/-- Is the field there as it should be, or left out where it may be? -/
def Field.Admits (field : Field) (given : Json.Fields) : Prop :=
  match Json.get? given field.name with
  | some value => field.format.Admits value
  | none => field.standard?.isSome = true

/-- The field when nothing of the record is left out. -/
def Field.complete (field : Field) (given : Json.Fields) : String × Json :=
  (field.name, match Json.get? given field.name with
    | some value => field.format.complete value
    | none => field.standard?.getD .null)

/-- Texts. -/
def text : Format where
  Admits value := ∃ content, value = .text content
  complete := id

/-- Texts, and nothing. -/
def textOrNull : Format where
  Admits value := value = .null ∨ text.Admits value
  complete := id

/-- Some texts. -/
def oneOf (words : List String) : Format where
  Admits value := ∃ word ∈ words, value = .text word
  complete := id

/-- Some texts, and nothing. -/
def oneOfOrNull (words : List String) : Format where
  Admits value := value = .null ∨ (oneOf words).Admits value
  complete := id

/-- Objects with any fields. -/
def mapping : Format where
  Admits value := ∃ fields, value = .object fields
  complete := id

/-- Lists with items of one format. -/
def list (item : Format) : Format where
  Admits value := ∃ items, value = .list items ∧ ∀ value ∈ items, item.Admits value
  complete
    | .list items => .list (items.map item.complete)
    | value => value

/-- Texts, and values of another format. -/
def textOr (other : Format) : Format where
  Admits value := text.Admits value ∨ other.Admits value
  complete
    | .text content => .text content
    | value => other.complete value

/-- Objects with the given fields and no others. -/
def record (fields : List Field) : Format where
  Admits value := ∃ given, value = .object given ∧
    (∀ field ∈ fields, field.Admits given) ∧ ∀ entry ∈ given, entry.1 ∈ fields.map (·.name)
  complete
    | .object given => .object (fields.map (·.complete given))
    | value => value

/-! ## The format of rule documents -/

/-- The words for strategies. -/
def strategyNames : List String := ["block", "carousel", "columns", "metadata"]

/-- The words for where a block goes. -/
def modeNames : List String := ["replace", "append", "prepend"]

/-- Attribute selectors. -/
def attributeSelector : Format :=
  record [⟨"attribute", text, none⟩, ⟨"property", textOrNull, some .null⟩,
    ⟨"value", text, some (.text "")⟩]

/-- What is removed. -/
def cleanup : Format :=
  record [⟨"start", list (textOr attributeSelector), some (.list [])⟩,
    ⟨"end", list (textOr attributeSelector), some (.list [])⟩]

/-- Block rules. -/
def blockRule : Format :=
  record [⟨"type", text, none⟩, ⟨"variants", list text, some (.list [])⟩,
    ⟨"selectors", list text, some (.list [])⟩,
    ⟨"parse", oneOfOrNull strategyNames, some .null⟩, ⟨"params", mapping, some (.object [])⟩,
    ⟨"insert_mode", oneOf modeNames, some (.text "replace")⟩]

/-- Transformers. -/
def transformRule : Format :=
  record [⟨"name", text, none⟩]

/-- Rule documents. -/
def ruleDocument : Format :=
  record [⟨"root", textOrNull, some (.text "main")⟩,
    ⟨"cleanup", cleanup, some (.object [("start", .list []), ("end", .list [])])⟩,
    ⟨"blocks", list blockRule, some (.list [])⟩,
    ⟨"transformers", list transformRule, some (.list [])⟩]

end Format

/-! ## What is given stays -/

/-- A value is in a larger one unchanged: the larger one may have more fields in its objects, and
nothing else. -/
inductive Json.IsKeptIn : Json → Json → Prop
  | refl (value : Json) : IsKeptIn value value
  | list {given whole : List Json} (items : List.Forall₂ IsKeptIn given whole) :
    IsKeptIn (.list given) (.list whole)
  | object {given whole : Json.Fields} (kept : String → Json)
    (found : ∀ name value, Json.get? given name = some value →
      Json.get? whole name = some (kept name))
    (fields : ∀ name value, Json.get? given name = some value → IsKeptIn value (kept name)) :
    IsKeptIn (.object given) (.object whole)

namespace Format

/-- Completing a value keeps all that was given. -/
def KeepsGiven (format : Format) : Prop :=
  ∀ value, format.Admits value → value.IsKeptIn (format.complete value)

theorem text_keepsGiven : text.KeepsGiven := fun value _ => .refl value

theorem list_keepsGiven {item : Format} (h : item.KeepsGiven) : (list item).KeepsGiven := by
  rintro _ ⟨values, rfl, hvalues⟩
  apply Json.IsKeptIn.list
  rw [List.forall₂_map_right_iff, List.forall₂_same]
  exact fun value hvalue => h value (hvalues value hvalue)

theorem textOr_keepsGiven {other : Format} (h : other.KeepsGiven) : (textOr other).KeepsGiven := by
  rintro value (⟨content, rfl⟩ | hother)
  · exact .refl _
  · cases value with
    | text content => exact .refl _
    | _ => exact h _ hother

/-- A completed record has each of its fields: what was given, completed, or what stands for it. -/
theorem get?_completed {fields : List Field} {field : Field} (hfield : field ∈ fields)
    (hdistinct : (fields.map (·.name)).Nodup) (given : Json.Fields) :
    Json.get? (fields.map (·.complete given)) field.name = some (field.complete given).2 := by
  rw [Json.get?, List.find?_map]
  induction fields with
  | nil => cases hfield
  | cons first fields ih =>
    obtain ⟨hfirst, hrest⟩ := List.nodup_cons.1 hdistinct
    rcases List.mem_cons.1 hfield with rfl | hmem
    · simp [Field.complete]
    · have hne : first.name ≠ field.name := by
        intro heq
        exact hfirst (List.mem_map.2 ⟨field, hmem, heq.symm⟩)
      simpa [Field.complete, hne] using ih hmem hrest

theorem record_keepsGiven {fields : List Field} (hdistinct : (fields.map (·.name)).Nodup)
    (h : ∀ field ∈ fields, field.format.KeepsGiven) : (record fields).KeepsGiven := by
  rintro _ ⟨given, rfl, hfields, hnames⟩
  have hfound : ∀ name value, Json.get? given name = some value → ∃ kept,
      Json.get? (fields.map (·.complete given)) name = some kept ∧ value.IsKeptIn kept := by
    intro name value hvalue
    obtain ⟨field, hfield, rfl⟩ : ∃ field ∈ fields, field.name = name := by
      obtain ⟨entry, hentry, -⟩ := Option.map_eq_some_iff.1 hvalue
      have hname : entry.1 = name := by simpa using List.find?_some hentry
      exact List.mem_map.1 (hname ▸ hnames entry (List.mem_of_find?_eq_some hentry))
    have hadmits := hfields field hfield
    rw [Field.Admits, hvalue] at hadmits
    refine ⟨field.format.complete value, ?_, h field hfield value hadmits⟩
    rw [get?_completed hfield hdistinct, Field.complete, hvalue]
  refine .object (fun name => (Json.get? (fields.map (·.complete given)) name).getD .null) ?_ ?_
  · intro name value hvalue
    obtain ⟨kept, hkept, -⟩ := hfound name value hvalue
    rw [hkept, Option.getD_some]
  · intro name value hvalue
    obtain ⟨kept, hkept, hvalueKept⟩ := hfound name value hvalue
    rwa [hkept, Option.getD_some]

theorem attributeSelector_keepsGiven : attributeSelector.KeepsGiven := by
  apply record_keepsGiven (by decide)
  simp only [List.forall_mem_cons]
  exact ⟨text_keepsGiven, fun value _ => .refl value, text_keepsGiven, by simp⟩

theorem cleanup_keepsGiven : cleanup.KeepsGiven := by
  have hentries := list_keepsGiven (textOr_keepsGiven attributeSelector_keepsGiven)
  apply record_keepsGiven (by decide)
  simp only [List.forall_mem_cons]
  exact ⟨hentries, hentries, by simp⟩

theorem blockRule_keepsGiven : blockRule.KeepsGiven := by
  have htexts := list_keepsGiven text_keepsGiven
  apply record_keepsGiven (by decide)
  simp only [List.forall_mem_cons]
  exact ⟨text_keepsGiven, htexts, htexts, fun value _ => .refl value, fun value _ => .refl value,
    fun value _ => .refl value, by simp⟩

theorem ruleDocument_keepsGiven : ruleDocument.KeepsGiven := by
  have htransformer : transformRule.KeepsGiven :=
    record_keepsGiven (by decide) (List.forall_mem_singleton.2 text_keepsGiven)
  apply record_keepsGiven (by decide)
  simp only [List.forall_mem_cons]
  exact ⟨fun value _ => .refl value, cleanup_keepsGiven, list_keepsGiven blockRule_keepsGiven,
    list_keepsGiven htransformer, by simp⟩

end Format

end PageBlocks
