import PageBlocks.Cell.Build
import PageBlocks.Proofs.Dom.Guard
import PageBlocks.Strategy.Basic
/-!
# Elements in values

A value may mention elements of the page at any depth.  What is moved into a block are the elements
that its cells mention, so these are what must be free.  Values that are read from JSON data mention
none.

## Main results

* `Value.elements_ofJson` — JSON data mentions no elements.
* `Value.IsFree.of_has` — what is free stays free while nodes are only added.
-/

namespace PageBlocks

namespace Value

mutual

/-- The elements that a value mentions. -/
def elements : Value → List NodeId
  | element id => [id]
  | list items => elementsOfItems items
  | config fields => elementsOfFields fields
  | null | bool _ | integer _ | decimal _ | text _ => []

/-- The elements that the items of a list mention. -/
def elementsOfItems : List Value → List NodeId
  | [] => []
  | item :: items => item.elements ++ elementsOfItems items

/-- The elements that the fields of a mapping mention. -/
def elementsOfFields : List (String × Value) → List NodeId
  | [] => []
  | (_, value) :: fields => value.elements ++ elementsOfFields fields

end

theorem mem_elementsOfItems {items : List Value} {id : NodeId} :
    id ∈ elementsOfItems items ↔ ∃ item ∈ items, id ∈ item.elements := by
  induction items with
  | nil => simp [elementsOfItems]
  | cons item items ih => simp [elementsOfItems, ih]

theorem mem_elementsOfFields {fields : List (String × Value)} {id : NodeId} :
    id ∈ elementsOfFields fields ↔ ∃ field ∈ fields, id ∈ field.2.elements := by
  induction fields with
  | nil => simp [elementsOfFields]
  | cons field fields ih => simp [elementsOfFields, ih]

mutual

/-- JSON data mentions no elements. -/
theorem elements_ofJson : ∀ json : Json, (ofJson json).elements = []
  | .null | .bool _ | .integer _ | .decimal _ | .text _ => rfl
  | .list items => elementsOfItems_ofItems items
  | .object fields => elementsOfFields_ofFields fields

theorem elementsOfItems_ofItems : ∀ items : List Json, elementsOfItems (ofItems items) = []
  | [] => rfl
  | item :: items => by
    rw [ofItems, elementsOfItems, elements_ofJson item, elementsOfItems_ofItems items]; rfl

theorem elementsOfFields_ofFields :
    ∀ fields : List (String × Json), elementsOfFields (ofFields fields) = []
  | [] => rfl
  | (name, value) :: fields => by
    rw [ofFields, elementsOfFields, elements_ofJson value, elementsOfFields_ofFields fields]; rfl

end

/-- All elements that a value mentions are free. -/
def IsFree (kept : Set NodeId) (dom : Dom) (value : Value) : Prop :=
  ∀ id ∈ value.elements, dom.Free kept id

variable {kept : Set NodeId} {dom before after : Dom} {value : Value}

theorem isFree_text (content : String) : (text content).IsFree kept dom :=
  fun _ h => absurd h List.not_mem_nil

theorem isFree_element {id : NodeId} : (element id).IsFree kept dom ↔ dom.Free kept id := by
  constructor
  · intro h
    exact h id List.mem_cons_self
  · intro h other hother
    rw [List.mem_singleton.1 hother]
    exact h

theorem isFree_list {items : List Value} :
    (list items).IsFree kept dom ↔ ∀ item ∈ items, item.IsFree kept dom := by
  constructor
  · intro h item hitem id hid
    exact h id (mem_elementsOfItems.2 ⟨item, hitem, hid⟩)
  · intro h id hid
    obtain ⟨item, hitem, hid⟩ := mem_elementsOfItems.1 hid
    exact h item hitem id hid

theorem isFree_config {fields : List (String × Value)} :
    (config fields).IsFree kept dom ↔ ∀ field ∈ fields, field.2.IsFree kept dom := by
  constructor
  · intro h field hfield id hid
    exact h id (mem_elementsOfFields.2 ⟨field, hfield, hid⟩)
  · intro h id hid
    obtain ⟨field, hfield, hid⟩ := mem_elementsOfFields.1 hid
    exact h field hfield id hid

theorem isFree_of_elements_nil (h : value.elements = []) : value.IsFree kept dom := by
  intro id hid
  rw [h] at hid
  exact absurd hid List.not_mem_nil

/-- What is free stays free while nodes are only added. -/
theorem IsFree.of_has (h : value.IsFree kept before) (hm : ∀ y, before.Has y → after.Has y) :
    value.IsFree kept after :=
  fun id hid => (h id hid).of_has hm

theorem IsFree.insert_fresh (h : value.IsFree kept dom) (wf : dom.WellFormed) :
    value.IsFree (insert dom.fresh kept) dom :=
  fun id hid => (h id hid).insert_fresh wf

theorem IsFree.itemsOrSelf (h : value.IsFree kept dom) :
    ∀ item ∈ value.itemsOrSelf, item.IsFree kept dom := by
  intro item hitem
  cases value with
  | list items => exact isFree_list.1 h item hitem
  | null | bool _ | integer _ | decimal _ | text _ | element _ | config _ =>
    rw [List.mem_singleton.1 hitem]
    exact h

theorem isFree_flatten {values : List Value} (h : ∀ value ∈ values, value.IsFree kept dom) :
    ∀ item ∈ flatten values, item.IsFree kept dom := by
  intro item hitem
  obtain ⟨value, hvalue, hitem⟩ := List.mem_flatMap.1 hitem
  exact (h value hvalue).itemsOrSelf item hitem

theorem isFree_map_element {ids : List NodeId} (h : ∀ id ∈ ids, dom.Free kept id) :
    ∀ value ∈ ids.map element, value.IsFree kept dom := by
  intro value hvalue
  obtain ⟨id, hid, rfl⟩ := List.mem_map.1 hvalue
  exact isFree_element.2 (h id hid)

/-- Values in which all that is present is free. -/
theorem isFree_getD {values : List Value} (h : ∀ value ∈ values, value.IsFree kept dom) (i : Nat) :
    (values[i]?.getD .null).IsFree kept dom := by
  cases hi : values[i]? with
  | none => exact isFree_of_elements_nil rfl
  | some value => exact h value (List.mem_of_getElem? hi)

end Value

end PageBlocks
