import PageBlocks.Json.Reader
import PageBlocks.Proofs.Json.Numeral
/-!
# What JSON values hold

Tests of a value that ask the same of each value inside it: that it has no decimals, that the names in
each object are distinct, and that its integers have no more digits than the reader admits.

Objects that were read have each name once, as a name that is repeated takes the place of the first
one, and integers that were read have no more digits than the reader admits.  Both are invariants of
one step of the reader, in which the members and items seen so far are what was read before.

## Main results

* `Json.everywhere_list`, `Json.everywhere_object` — a test holds everywhere when it holds of the value
  and everywhere in its parts.
* `Json.isRead_of_readValue` — a value that was read has distinct names and short integers.
* `Json.isRead_of_parse` — and so has the value of a text.
-/

namespace PageBlocks.Json

mutual

/-- Does a test hold of a value and of all values inside it? -/
def everywhere (test : Json → Bool) : Json → Bool
  | .list items => test (.list items) && itemsEverywhere test items
  | .object fields => test (.object fields) && fieldsEverywhere test fields
  | value => test value

/-- Does a test hold everywhere in the items of a list? -/
def itemsEverywhere (test : Json → Bool) : List Json → Bool
  | [] => true
  | item :: items => everywhere test item && itemsEverywhere test items

/-- Does a test hold everywhere in the values of fields? -/
def fieldsEverywhere (test : Json → Bool) : List (String × Json) → Bool
  | [] => true
  | (_, value) :: fields => everywhere test value && fieldsEverywhere test fields

end

/-- Is a value something else than a decimal? -/
def isNoDecimal : Json → Bool
  | .decimal _ => false
  | _ => true

/-- Are the names of an object distinct? -/
def hasDistinctNames : Json → Bool
  | .object fields => decide (fields.map (·.1)).Nodup
  | _ => true

/-- Does an integer have no more digits than the reader admits? -/
def isShortInteger : Json → Bool
  | .integer value => decide ((Nat.toDigits 10 value.natAbs).length ≤ maxIntegerDigits)
  | _ => true

/-- Does a value hold no decimals? -/
def hasNoDecimals (value : Json) : Bool :=
  value.everywhere isNoDecimal

/-- Does each object in a value have distinct names? -/
def isDistinct (value : Json) : Bool :=
  value.everywhere hasDistinctNames

/-- Are all integers in a value short enough to be read? -/
def isReadable (value : Json) : Bool :=
  value.everywhere isShortInteger

variable {test : Json → Bool}

theorem itemsEverywhere_eq (items : List Json) :
    itemsEverywhere test items = items.all (everywhere test) := by
  induction items with
  | nil => rfl
  | cons item items ih => rw [itemsEverywhere, ih, List.all_cons]

theorem fieldsEverywhere_eq (fields : List (String × Json)) :
    fieldsEverywhere test fields = fields.all fun field => everywhere test field.2 := by
  induction fields with
  | nil => rfl
  | cons field fields ih => rw [fieldsEverywhere, ih, List.all_cons]

/-- A test holds everywhere in a list when it holds of it and everywhere in its items. -/
theorem everywhere_list {items : List Json} :
    everywhere test (.list items) = true ↔
      test (.list items) = true ∧ ∀ item ∈ items, everywhere test item = true := by
  simp [everywhere, itemsEverywhere_eq]

/-- A test holds everywhere in an object when it holds of it and everywhere in its values. -/
theorem everywhere_object {fields : List (String × Json)} :
    everywhere test (.object fields) = true ↔
      test (.object fields) = true ∧ ∀ field ∈ fields, everywhere test field.2 = true := by
  rw [everywhere, fieldsEverywhere_eq, Bool.and_eq_true, List.all_eq_true]

/-! ## Names of fields -/

/-- A field under a new name goes to the end. -/
theorem put_of_notMem {fields : List (String × α)} {name : String} {value : α}
    (h : name ∉ fields.map (·.1)) : put fields name value = fields ++ [(name, value)] := by
  induction fields with
  | nil => rfl
  | cons field fields ih =>
    obtain ⟨key, old⟩ := field
    simp only [List.map_cons, List.mem_cons, not_or] at h
    rw [put, if_neg (Ne.symm h.1), ih h.2, List.cons_append]

theorem foldl_put_of_nodup {entries : List (String × α)} :
    ∀ {fields : List (String × α)}, ((fields ++ entries).map (·.1)).Nodup →
      entries.foldl (fun fields entry => put fields entry.1 entry.2) fields = fields ++ entries := by
  induction entries with
  | nil => simp
  | cons entry entries ih =>
    intro fields h
    have hnew : entry.1 ∉ fields.map (·.1) := by
      rw [List.map_append, List.nodup_append] at h
      exact fun hmem => h.2.2 _ hmem _ List.mem_cons_self rfl
    rw [List.foldl_cons, put_of_notMem hnew, ih (by simpa using h), List.append_assoc]
    rfl

/-- Fields under distinct names are kept as they are. -/
theorem ofEntries_of_nodup {entries : List (String × α)} (h : (entries.map (·.1)).Nodup) :
    ofEntries entries = entries :=
  foldl_put_of_nodup h

theorem mem_put {fields : List (String × α)} {name : String} {value : α} {field : String × α}
    (h : field ∈ put fields name value) : field ∈ fields ∨ field.2 = value := by
  induction fields with
  | nil =>
    rw [List.mem_singleton.1 h]
    exact .inr rfl
  | cons entry fields ih =>
    obtain ⟨key, old⟩ := entry
    rw [put] at h
    split at h
    · obtain rfl | h := List.mem_cons.1 h
      · exact .inr rfl
      · exact .inl (.tail _ h)
    · obtain rfl | h := List.mem_cons.1 h
      · exact .inl List.mem_cons_self
      · exact (ih h).imp_left (.tail _)

theorem nodup_put {fields : List (String × α)} (h : (fields.map (·.1)).Nodup) (name : String)
    (value : α) : ((put fields name value).map (·.1)).Nodup := by
  by_cases hname : name ∈ fields.map (·.1)
  · rwa [put_keys_mem hname]
  · rw [put_of_notMem hname, List.map_append, List.nodup_append]
    refine ⟨h, by simp, ?_⟩
    rintro key hkey other hother rfl
    rw [List.map_singleton, List.mem_singleton] at hother
    rw [hother] at hkey
    exact hname hkey

/-! ## Induction -/

/-- What holds of each value when it holds of its parts holds of all values. -/
theorem induct {motive : Json → Prop} (null : motive .null) (bool : ∀ value, motive (.bool value))
    (integer : ∀ value, motive (.integer value)) (decimal : ∀ value, motive (.decimal value))
    (text : ∀ value, motive (.text value))
    (list : ∀ items, (∀ item ∈ items, motive item) → motive (.list items))
    (object : ∀ fields, (∀ field ∈ fields, motive field.2) → motive (.object fields)) :
    ∀ value, motive value
  | .null => null
  | .bool value => bool value
  | .integer value => integer value
  | .decimal value => decimal value
  | .text value => text value
  | .list items => list items fun item _ =>
    induct null bool integer decimal text list object item
  | .object fields => object fields fun field _ =>
    induct null bool integer decimal text list object field.2
termination_by value => sizeOf value
decreasing_by
  · have hitem := List.sizeOf_lt_of_mem ‹_ ∈ items›
    simp only [Json.list.sizeOf_spec]
    omega
  · have hfield := List.sizeOf_lt_of_mem ‹_ ∈ fields›
    obtain ⟨name, value⟩ := field
    simp only [Json.object.sizeOf_spec, Prod.mk.sizeOf_spec] at hfield ⊢
    omega

/-! ## What the reader yields -/

variable {value : Json} {fields : Fields} {items : List Json} {cursor next : Cursor}

/-- Does a value have distinct names and short integers everywhere? -/
structure IsRead (value : Json) : Prop where
  isReadable : value.isReadable = true
  isDistinct : value.isDistinct = true

theorem isRead_list : IsRead (.list items) ↔ ∀ item ∈ items, IsRead item := by
  constructor
  · rintro ⟨hreadable, hdistinct⟩ item hitem
    exact ⟨(everywhere_list.1 hreadable).2 item hitem, (everywhere_list.1 hdistinct).2 item hitem⟩
  · intro h
    exact ⟨everywhere_list.2 ⟨rfl, fun item hitem => (h item hitem).isReadable⟩,
      everywhere_list.2 ⟨rfl, fun item hitem => (h item hitem).isDistinct⟩⟩

theorem isRead_object :
    IsRead (.object fields) ↔ (fields.map (·.1)).Nodup ∧ ∀ field ∈ fields, IsRead field.2 := by
  constructor
  · rintro ⟨hreadable, hdistinct⟩
    obtain ⟨hnames, hvalues⟩ := everywhere_object.1 hdistinct
    exact ⟨by simpa [hasDistinctNames] using hnames,
      fun field hfield => ⟨(everywhere_object.1 hreadable).2 field hfield, hvalues field hfield⟩⟩
  · rintro ⟨hnames, h⟩
    exact ⟨everywhere_object.2 ⟨rfl, fun field hfield => (h field hfield).isReadable⟩,
      everywhere_object.2 ⟨by simpa [hasDistinctNames] using hnames,
        fun field hfield => (h field hfield).isDistinct⟩⟩

/-- A field that was read goes to the fields that were read. -/
theorem IsRead.put (hfields : IsRead (.object fields)) (hvalue : IsRead value) (name : String) :
    IsRead (.object (Json.put fields name value)) := by
  obtain ⟨hnames, hvalues⟩ := isRead_object.1 hfields
  refine isRead_object.2 ⟨nodup_put hnames name value, fun field hfield => ?_⟩
  obtain hold | hnew := mem_put hfield
  · exact hvalues field hold
  · rwa [hnew]

theorem exists_of_bind_eq_ok {first : Except ε α} {more : α → Except ε β} {result : β}
    (h : first >>= more = .ok result) : ∃ value, first = .ok value ∧ more value = .ok result := by
  cases first with
  | error fault => cases h
  | ok value => exact ⟨value, rfl, h⟩

/-- A value that is neither an integer nor has parts. -/
theorem isRead_word {entry : String × Json} (h : entry ∈ wordValues) : IsRead entry.2 := by
  simp only [wordValues, List.mem_cons, List.not_mem_nil, or_false] at h
  obtain rfl | rfl | rfl | rfl | rfl | rfl := h <;> exact ⟨rfl, rfl⟩

theorem isRead_of_wordValue? {rest : List Char} {length : Nat}
    (h : wordValue? rest = some (value, length)) : IsRead value := by
  obtain ⟨entry, hentry, heq⟩ := Option.map_eq_some_iff.1 h
  cases heq
  exact isRead_word (List.mem_of_find?_eq_some hentry)

theorem isDigitChar_of_mem_wholeDigits {text : List Char} {c : Char} (h : c ∈ wholeDigits text) :
    isDigitChar c = true := by
  unfold wholeDigits at h
  split at h
  · rw [List.mem_singleton.1 h]
    decide
  · exact List.all_eq_true.1 List.all_takeWhile c h

/-- The digits that were read write a number with no more digits. -/
theorem isShortInteger_of_digits {digits : List Char} {value : Int}
    (hdigits : ∀ c ∈ digits, isDigitChar c = true) (hne : digits ≠ [])
    (hlength : digits.length ≤ maxIntegerDigits) (hvalue : value.natAbs = natOfDigits digits) :
    isShortInteger (.integer value) = true := by
  have hbound := natOfDigits_lt hdigits
  have hshort := (Nat.length_toDigits_le_iff (by decide) (List.length_pos_iff.2 hne)).2 hbound
  rw [isShortInteger, hvalue]
  simp only [decide_eq_true_eq]
  omega

/-- A number that was read has no more digits than the reader admits. -/
theorem isRead_of_readNumber (h : readNumber cursor = .ok (value, next)) : IsRead value := by
  unfold readNumber at h
  simp only at h
  generalize (if cursor.rest.head? = some '-' then cursor.skip 1 else cursor) = body at h
  split at h
  · cases h
  next hempty =>
  split at h
  · split at h
    · cases h
    next hlong =>
    cases h
    refine ⟨isShortInteger_of_digits (fun c => isDigitChar_of_mem_wholeDigits)
      (by simpa using hempty) (Nat.not_lt.1 hlong) ?_, rfl⟩
    split <;> simp
  · cases h
    exact ⟨rfl, rfl⟩

/-- With so much fuel, are all values that are read, and those that go on from what was read, made of
distinct names and short integers? -/
structure ReadsOnly (fuel : Nat) : Prop where
  value : ∀ {cursor value next}, readValue fuel cursor = .ok (value, next) → IsRead value
  members : ∀ {seen cursor value next}, IsRead (.object seen) →
    readMembers fuel seen cursor = .ok (value, next) → IsRead value
  items : ∀ {seen cursor value next}, (∀ item ∈ seen, IsRead item) →
    readItems fuel seen cursor = .ok (value, next) → IsRead value

theorem ReadsOnly.readValue_succ {fuel : Nat} (hreads : ReadsOnly fuel)
    (h : readValue (fuel + 1) cursor = .ok (value, next)) : IsRead value := by
  rw [readValue] at h
  split at h
  · obtain ⟨⟨content, after⟩, -, h⟩ := exists_of_bind_eq_ok h
    cases h
    exact ⟨rfl, rfl⟩
  · simp only at h
    split at h
    · cases h
      exact isRead_object.2 (by simp)
    · exact hreads.members (isRead_object.2 (by simp)) h
  · simp only at h
    split at h
    · cases h
      exact isRead_list.2 (by simp)
    · exact hreads.items (by simp) h
  · split at h
    next hword =>
      cases h
      exact isRead_of_wordValue? hword
    next => exact isRead_of_readNumber h

theorem ReadsOnly.readMembers_succ {fuel : Nat} (hreads : ReadsOnly fuel) {seen : Fields}
    (hseen : IsRead (.object seen)) (h : readMembers (fuel + 1) seen cursor = .ok (value, next)) :
    IsRead value := by
  rw [readMembers] at h
  split at h
  · obtain ⟨⟨name, afterName⟩, -, h⟩ := exists_of_bind_eq_ok h
    simp only at h
    split at h
    · obtain ⟨⟨member, afterMember⟩, hmember, h⟩ := exists_of_bind_eq_ok h
      have hput := hseen.put (hreads.value hmember) name
      simp only at h
      split at h
      · cases h
        exact hput
      · exact hreads.members hput h
      · cases h
    · cases h
  · cases h

theorem ReadsOnly.readItems_succ {fuel : Nat} (hreads : ReadsOnly fuel) {seen : List Json}
    (hseen : ∀ item ∈ seen, IsRead item) (h : readItems (fuel + 1) seen cursor = .ok (value, next)) :
    IsRead value := by
  rw [readItems] at h
  obtain ⟨⟨item, afterItem⟩, hitem, h⟩ := exists_of_bind_eq_ok h
  have hcons : ∀ other ∈ item :: seen, IsRead other := by
    rintro other hother
    obtain rfl | hother := List.mem_cons.1 hother
    · exact hreads.value hitem
    · exact hseen other hother
  simp only at h
  split at h
  · cases h
    exact isRead_list.2 fun other hother => hcons other (List.mem_reverse.1 hother)
  · exact hreads.items hcons h
  · cases h

theorem readsOnly (fuel : Nat) : ReadsOnly fuel := by
  induction fuel with
  | zero =>
    refine ⟨?_, ?_, ?_⟩
    · intro cursor value next h
      cases h
    · intro seen cursor value next _ h
      cases h
    · intro seen cursor value next _ h
      cases h
  | succ fuel ih => exact ⟨ih.readValue_succ, ih.readMembers_succ, ih.readItems_succ⟩

/-- A value that was read has distinct names and short integers. -/
theorem isRead_of_readValue {fuel : Nat} (h : readValue fuel cursor = .ok (value, next)) : IsRead value :=
  (readsOnly fuel).value h

/-- The value of a text has distinct names and short integers. -/
theorem isRead_of_parse {text : String} (h : parse text = .ok value) : IsRead value := by
  unfold parse at h
  split at h
  next found hread =>
    cases h
    unfold read at hread
    split at hread
    · cases hread
    obtain ⟨⟨value, after⟩, hvalue, hread⟩ := exists_of_bind_eq_ok hread
    simp only at hread
    split at hread
    · cases hread
      exact isRead_of_readValue hvalue
    · cases hread
  next => cases h
  next => cases h

end PageBlocks.Json
