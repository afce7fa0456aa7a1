import PageBlocks.Proofs.Rule.Format
import PageBlocks.Rule.Reader
import PageBlocks.Rule.Writer
/-!
# Rule documents are read exactly

The check of rule documents lets through just what their format admits, and a document is written as
the value that it was read from, completed.

The check of a record goes through its fields one after the other, and so does the proof: `FieldsMatch`
takes one more field with `required` or `optional`, and `record` puts the fields together.

## Main results

* `FieldsMatch.record` — the check of a record, from those of its fields.
* `Format.Matches.list` — the check of a list, from that of its items.
* `RuleDocument.check_exact` — which values are rule documents, and how they are written again.
-/

namespace PageBlocks

open Checked

/-! ## Checks of a format -/

/-- A check lets through what a format admits, and what it lets through is written completed. -/
structure Format.Matches (format : Format) (check : Json → Checked α) (write : α → Json) : Prop where
  exists_ok_iff (value : Json) : (∃ result, check value = .ok result) ↔ format.Admits value
  write_eq {value : Json} {result : α} (h : check value = .ok result) :
    write result = format.complete value

/-- A check of the fields of a record lets through what the fields admit, where all names are known,
and what it lets through is written as the completed fields. -/
structure FieldsMatch (known : List String) (fields : List Format.Field)
    (check : Json.Fields → Checked α) (write : α → Json.Fields) : Prop where
  exists_ok_iff (given : Json.Fields) : (∃ result, check given = .ok result) ↔
    (∀ field ∈ fields, field.Admits given) ∧ ∀ entry ∈ given, entry.1 ∈ known
  write_eq {given : Json.Fields} {result : α} (h : check given = .ok result) :
    write result = fields.map (·.complete given)

namespace Checked

theorem exists_map_iff {checked : Checked α} {f : α → β} :
    (∃ result, checked.map f = .ok result) ↔ ∃ result, checked = .ok result := by
  cases checked <;> simp [Except.map]

theorem exists_inside_iff {checked : Checked α} {step : Step} :
    (∃ result, checked.inside step = .ok result) ↔ ∃ result, checked = .ok result := by
  simp only [inside_ok]

theorem map_eq_ok_iff {checked : Checked α} {f : α → β} {result : β} :
    checked.map f = .ok result ↔ ∃ value, checked = .ok value ∧ f value = result := by
  cases checked <;> simp [Except.map]

theorem exists_both_iff {first : Checked α} {second : Checked β} :
    (∃ result, both first second = .ok result) ↔
      (∃ result, first = .ok result) ∧ ∃ result, second = .ok result := by
  constructor
  · rintro ⟨result, h⟩
    obtain ⟨hfirst, hsecond⟩ := both_ok.1 h
    exact ⟨⟨_, hfirst⟩, ⟨_, hsecond⟩⟩
  · rintro ⟨⟨result, hfirst⟩, ⟨other, hsecond⟩⟩
    exact ⟨(result, other), both_ok.2 ⟨hfirst, hsecond⟩⟩

theorem required_ok_iff {given : Json.Fields} {name : String} {check : Json → Checked α}
    {result : α} : required given name check = .ok result ↔
      ∃ value, Json.get? given name = some value ∧ check value = .ok result := by
  rw [required, inside_ok]
  cases Json.get? given name <;> simp [fail]

theorem optional_ok_iff {given : Json.Fields} {name : String} {check : Json → Checked α}
    {result : Option α} : Checked.optional given name check = .ok result ↔
      (Json.get? given name = none ∧ result = none) ∨
        ∃ value found, Json.get? given name = some value ∧ check value = .ok found ∧
          result = some found := by
  rw [Checked.optional]
  cases Json.get? given name with
  | none => simp [eq_comm]
  | some value =>
    rw [inside_ok, map_eq_ok_iff]
    simp [eq_comm]

theorem orElse_ok_iff {first second : Checked α} {result : α} :
    first.orElse second = .ok result ↔
      first = .ok result ∨ (∀ other, first ≠ .ok other) ∧ second = .ok result := by
  cases first <;> cases second <;> simp [orElse]

theorem exists_orElse_iff {first second : Checked α} :
    (∃ result, first.orElse second = .ok result) ↔
      (∃ result, first = .ok result) ∨ ∃ result, second = .ok result := by
  cases first <;> cases second <;> simp [orElse]

end Checked

namespace FieldsMatch

variable {known : List String} {fields : List Format.Field} {check : Json.Fields → Checked β}
  {write : β → Json.Fields} {format : Format} {checkFirst : Json → Checked α} {writeFirst : α → Json}

/-- Behind the last field all names have to be known. -/
theorem extras (known : List String) : FieldsMatch known [] (Checked.extras known) fun _ => [] where
  exists_ok_iff _ :=
    ⟨fun ⟨_, h⟩ => ⟨fun _ hfield => absurd hfield List.not_mem_nil, extras_ok.1 h⟩,
      fun h => ⟨(), extras_ok.2 h.2⟩⟩
  write_eq _ := rfl

/-- One more field, which has to be there. -/
theorem required (name : String) (hfirst : format.Matches checkFirst writeFirst)
    (h : FieldsMatch known fields check write) :
    FieldsMatch known (⟨name, format, none⟩ :: fields)
      (fun given => both (Checked.required given name checkFirst) (check given))
      fun result => (name, writeFirst result.1) :: write result.2 where
  exists_ok_iff given := by
    have hfield : (∃ result, Checked.required given name checkFirst = .ok result) ↔
        Format.Field.Admits ⟨name, format, none⟩ given := by
      simp only [required_ok_iff, Format.Field.Admits]
      cases Json.get? given name with
      | none => simp
      | some value => simpa using hfirst.exists_ok_iff value
    rw [exists_both_iff, h.exists_ok_iff, List.forall_mem_cons, hfield, and_assoc]
  write_eq {_ result} hresult := by
    obtain ⟨hnamed, hrest⟩ := both_ok.1 hresult
    obtain ⟨value, hvalue, hcheck⟩ := required_ok_iff.1 hnamed
    rw [List.map_cons, h.write_eq hrest, hfirst.write_eq hcheck, Format.Field.complete, hvalue]

/-- One more field, which may be left out; what stands for it is what is written for a default. -/
theorem optional (name : String) (default : α) (hfirst : format.Matches checkFirst writeFirst)
    (h : FieldsMatch known fields check write) :
    FieldsMatch known (⟨name, format, some (writeFirst default)⟩ :: fields)
      (fun given => both (Checked.optional given name checkFirst) (check given))
      fun result => (name, writeFirst (result.1.getD default)) :: write result.2 where
  exists_ok_iff given := by
    have hfield : (∃ result, Checked.optional given name checkFirst = .ok result) ↔
        Format.Field.Admits ⟨name, format, some (writeFirst default)⟩ given := by
      simp only [optional_ok_iff, Format.Field.Admits]
      cases Json.get? given name with
      | none => simp
      | some value =>
        refine Iff.trans ?_ (hfirst.exists_ok_iff value)
        simp [exists_comm]
    rw [exists_both_iff, h.exists_ok_iff, List.forall_mem_cons, hfield, and_assoc]
  write_eq {given result} hresult := by
    obtain ⟨hnamed, hrest⟩ := both_ok.1 hresult
    rw [List.map_cons, h.write_eq hrest, Format.Field.complete]
    rcases optional_ok_iff.1 hnamed with ⟨hvalue, hnone⟩ | ⟨value, found, hvalue, hcheck, hfound⟩
    · rw [hvalue, hnone]
      rfl
    · rw [hvalue, hfound, Option.getD_some, hfirst.write_eq hcheck]

/-- The fields together are a record. -/
theorem record (kind : String) {build : β → α} {writeRecord : α → Json}
    (h : FieldsMatch (fields.map (·.name)) fields check write)
    (hbuild : ∀ result, writeRecord (build result) = .object (write result)) :
    (Format.record fields).Matches
      (Checked.record kind fun given => (check given).map build) writeRecord where
  exists_ok_iff value := by
    cases value with
    | object given =>
      simp only [Checked.record, exists_map_iff, h.exists_ok_iff, Format.record, Json.object.injEq,
        exists_eq_left']
    | _ => simp [Checked.record, fail, Format.record]
  write_eq {value result} hresult := by
    cases value with
    | object given =>
      obtain ⟨fieldsResult, hcheck, rfl⟩ := map_eq_ok_iff.1 hresult
      rw [hbuild, h.write_eq hcheck]
      rfl
    | _ => cases hresult

end FieldsMatch

namespace Format

theorem text_matches : text.Matches Checked.text Json.text where
  exists_ok_iff value := by simp [text_ok, text]
  write_eq h := (text_ok.1 h).symm

theorem textOrNull_matches : textOrNull.Matches Checked.textOrNull textOrNullJson where
  exists_ok_iff value := by
    cases value <;> simp [Checked.textOrNull, Checked.text, fail, Except.map, textOrNull, text]
  write_eq {value result} h := by
    cases value <;> cases h <;> rfl

theorem mapping_matches : mapping.Matches Checked.mapping Json.object where
  exists_ok_iff value := by cases value <;> simp [Checked.mapping, fail, mapping]
  write_eq {value result} h := by
    cases value <;> cases h
    rfl

variable {format : Format} {check : Json → Checked α} {write : α → Json}

theorem Matches.itemsFrom (h : format.Matches check write) (place : Nat) (values : List Json) :
    ((∃ result, Checked.itemsFrom check place values = .ok result) ↔
      ∀ value ∈ values, format.Admits value) ∧
      ∀ result, Checked.itemsFrom check place values = .ok result →
        result.map write = values.map format.complete := by
  induction values generalizing place with
  | nil => simp [Checked.itemsFrom]
  | cons value values ih =>
    obtain ⟨hexists, hwrite⟩ := ih (place + 1)
    refine ⟨?_, ?_⟩
    · rw [Checked.itemsFrom, exists_map_iff, exists_both_iff, exists_inside_iff, h.exists_ok_iff,
        hexists, List.forall_mem_cons]
    · intro result hresult
      rw [Checked.itemsFrom] at hresult
      obtain ⟨⟨first, rest⟩, hboth, rfl⟩ := map_eq_ok_iff.1 hresult
      obtain ⟨hfirst, hrest⟩ := both_ok.1 hboth
      rw [List.map_cons, List.map_cons, h.write_eq (inside_ok.1 hfirst), hwrite rest hrest]

theorem Matches.list (h : format.Matches check write) :
    (Format.list format).Matches (Checked.list check) fun items => .list (items.map write) where
  exists_ok_iff value := by
    cases value with
    | list values =>
      have hitems := (h.itemsFrom 0 values).1
      simpa [Checked.list, Checked.items, Format.list] using hitems
    | _ => simp [Checked.list, fail, Format.list]
  write_eq {value result} hresult := by
    cases value with
    | list values => exact congrArg Json.list ((h.itemsFrom 0 values).2 result hresult)
    | _ => cases hresult

theorem Matches.map {build : α → β} {writeBuilt : β → Json} (h : format.Matches check write)
    (hbuild : ∀ result, writeBuilt (build result) = write result) :
    format.Matches (fun value => (check value).map build) writeBuilt where
  exists_ok_iff value := exists_map_iff.trans (h.exists_ok_iff value)
  write_eq hresult := by
    obtain ⟨result, hcheck, rfl⟩ := map_eq_ok_iff.1 hresult
    rw [hbuild, h.write_eq hcheck]

/-! ## The parts of rule documents -/

theorem strategy_matches : (oneOfOrNull strategyNames).Matches Strategy.check
    fun strategy => textOrNullJson (strategy.map Strategy.name) where
  exists_ok_iff value := by
    cases value with
    | text name =>
      have hnames : (∃ strategy, Strategy.ofName? name = some strategy) ↔ name ∈ strategyNames := by
        rw [← Option.isSome_iff_exists, Strategy.ofName?, List.find?_isSome]
        simp [Strategy.all, strategyNames, Strategy.name, eq_comm]
      rw [oneOfOrNull, oneOf, Strategy.check]
      cases hname : Strategy.ofName? name with
      | none => simpa [hname, fail] using hnames
      | some strategy => simpa [hname] using hnames
    | _ => simp [Strategy.check, oneOfOrNull, oneOf]
  write_eq {value result} h := by
    cases value with
    | text name =>
      rw [Strategy.check] at h
      cases hname : Strategy.ofName? name with
      | none =>
        rw [hname] at h
        cases h
      | some strategy =>
        rw [hname] at h
        cases h
        exact congrArg Json.text (Strategy.name_of_ofName? hname)
    | null =>
      cases h
      rfl
    | _ => cases h

theorem mode_matches :
    (oneOf modeNames).Matches InsertMode.check fun mode => .text mode.name where
  exists_ok_iff value := by
    cases value with
    | text name =>
      have hnames : (∃ mode, InsertMode.ofName? name = some mode) ↔ name ∈ modeNames := by
        rw [← Option.isSome_iff_exists, InsertMode.ofName?, List.find?_isSome]
        simp [modeNames, InsertMode.name, eq_comm]
      rw [oneOf, InsertMode.check, Json.text?, Option.bind_some]
      cases hname : InsertMode.ofName? name with
      | none => simpa [hname, fail] using hnames
      | some mode => simpa [hname] using hnames
    | _ => simp [InsertMode.check, Json.text?, oneOf, fail]
  write_eq {value result} h := by
    cases value with
    | text name =>
      rw [InsertMode.check, Json.text?, Option.bind_some] at h
      cases hname : InsertMode.ofName? name with
      | none =>
        rw [hname] at h
        cases h
      | some mode =>
        rw [hname] at h
        cases h
        have hmode : result.name = name := by simpa using List.find?_some hname
        exact congrArg Json.text hmode
    | _ => cases h

theorem attributeSelector_matches :
    attributeSelector.Matches AttributeSelector.check AttributeSelector.toJson :=
  (FieldsMatch.required "attribute" text_matches <|
    .optional "property" none textOrNull_matches <|
    .optional "value" "" text_matches <|
    .extras _).record "AttributeSelector" fun _ => rfl

theorem cleanupEntry_matches :
    (textOr attributeSelector).Matches CleanupEntry.check CleanupEntry.toJson where
  exists_ok_iff value := by
    rw [CleanupEntry.check, exists_orElse_iff, exists_inside_iff, exists_map_iff,
      exists_inside_iff, exists_map_iff, text_matches.exists_ok_iff,
      attributeSelector_matches.exists_ok_iff]
    rfl
  write_eq {value result} h := by
    rcases orElse_ok_iff.1 h with h | ⟨hnot, h⟩
    · obtain ⟨content, hcontent, rfl⟩ := map_eq_ok_iff.1 (inside_ok.1 h)
      rw [text_ok.1 hcontent]
      rfl
    · obtain ⟨selector, hselector, rfl⟩ := map_eq_ok_iff.1 (inside_ok.1 h)
      have hwrite := attributeSelector_matches.write_eq hselector
      cases value with
      | text content => cases hselector
      | _ => exact hwrite

theorem cleanup_matches : cleanup.Matches Cleanup.check Cleanup.toJson :=
  (FieldsMatch.optional "start" [] cleanupEntry_matches.list <|
    .optional "end" [] cleanupEntry_matches.list <|
    .extras _).record "Cleanup" fun _ => rfl

/-- A rule of which only some fields are told is written as the rule that it comes to. -/
theorem blockDraft_matches :
    blockRule.Matches BlockDraft.check fun draft => draft.toRule.toJson :=
  (FieldsMatch.required "type" text_matches <|
    .optional "variants" [] text_matches.list <|
    .optional "selectors" [] text_matches.list <|
    .optional "parse" none strategy_matches <|
    .optional "params" [] mapping_matches <|
    .optional "insert_mode" InsertMode.replace mode_matches <|
    .extras _).record "BlockRule" fun _ => rfl

theorem blockRule_matches : blockRule.Matches BlockRule.check BlockRule.toJson :=
  blockDraft_matches.map fun _ => rfl

theorem transformRule_matches : transformRule.Matches TransformRule.check TransformRule.toJson :=
  (FieldsMatch.required "name" text_matches <| .extras _).record "TransformRule" fun _ => rfl

theorem ruleDocument_matches : ruleDocument.Matches RuleDocument.check RuleDocument.toJson :=
  (FieldsMatch.optional "root" (some defaultRoot) textOrNull_matches <|
    .optional "cleanup" Cleanup.none cleanup_matches <|
    .optional "blocks" [] blockRule_matches.list <|
    .optional "transformers" [] transformRule_matches.list <|
    .extras _).record "ImportRules" fun _ => rfl

end Format

/-- Just the values of the format are rule documents.  A rule document is written as the value that it
was read from, with what stands for each field that was left out, at every level; all that was given is
kept in it unchanged. -/
theorem RuleDocument.check_exact (value : Json) :
    ((∃ document, check value = .ok document) ↔ Format.ruleDocument.Admits value) ∧
      ∀ document, check value = .ok document →
        document.toJson = Format.ruleDocument.complete value ∧ value.IsKeptIn document.toJson := by
  refine ⟨Format.ruleDocument_matches.exists_ok_iff value, ?_⟩
  intro document h
  have hwrite := Format.ruleDocument_matches.write_eq h
  refine ⟨hwrite, ?_⟩
  rw [hwrite]
  exact Format.ruleDocument_keepsGiven value
    ((Format.ruleDocument_matches.exists_ok_iff value).1 ⟨document, h⟩)

end PageBlocks
