import PageBlocks.Proofs.Json.Content
import PageBlocks.Proofs.Json.Rendered
import PageBlocks.Proofs.Json.Rounded
import PageBlocks.Proofs.Rule.Written
import PageBlocks.Store.Basic
import PageBlocks.Store.Load
/-!
# Rule documents that are kept come back

A rule document that is written, by itself or in an entry of the store, is loaded as it was, with the
names in the settings of its blocks in their order.  The settings may be nested and hold any text, but
no decimals, and no integers with more digits than the reader admits; what else is known about a site
may hold any numbers but such integers.

Decimals in the settings may be written with other digits, but they stand for the same numbers of double
precision, so that a document with decimals comes back as one with the same numbers.

The other way round, the settings of the blocks of a loaded document are an object inside the value of
its file, so that they have distinct names and integers no longer than the reader admits.

## Main results

* `BlockRule.isRead_of_check` — the settings of a checked rule are part of its value.
* `isRead_of_loadRules` — the settings in a loaded document are data that was read.
* `RuleDocument.readsAs_toJson` — the value of a document is read as it was written.
* `storedEntry_readsAs` — and so is its part of an entry.
* `document_comes_back` — documents come back from their own text and from the store.
* `loadRules_numbered` — a document with an integer that is too long does not come back.
* `RuleDocument.exists_rereadsAs` — the value of a document is read as that of one with the same numbers.
* `exists_readJsonFile_storedEntry` — what the file of a site has for its entry.
-/

namespace PageBlocks

section

open Checked

variable {value : Json} {fields : Json.Fields} {document : RuleDocument}

/-! ## Values that passed a check -/

theorem Checked.exists_of_map_ok {checked : Checked α} {f : α → β} {result : β}
    (h : checked.map f = .ok result) : ∃ value, checked = .ok value ∧ f value = result := by
  cases checked with
  | error issues => cases h
  | ok value => exact ⟨value, rfl, Except.ok.inj h⟩

/-- An optional field that is told has a value that passes the check. -/
theorem Checked.exists_of_optional {name : String} {check : Json → Checked α} {result : α}
    (h : Checked.optional fields name check = .ok (some result)) :
    ∃ value, Json.get? fields name = some value ∧ check value = .ok result := by
  unfold Checked.optional at h
  split at h
  · next value hget =>
    obtain ⟨_, hcheck, rfl⟩ : ∃ other, check value = .ok other ∧ other = result := by
      obtain ⟨other, hother, heq⟩ := exists_of_map_ok (inside_ok.1 h)
      exact ⟨other, hother, Option.some.inj heq⟩
    exact ⟨value, hget, hcheck⟩
  · cases h

/-! ## Settings that were loaded -/

theorem Json.IsRead.get? {name : String} (h : Json.IsRead (.object fields))
    (hget : Json.get? fields name = some value) : value.IsRead := by
  obtain ⟨field, hfield, rfl⟩ := Option.map_eq_some_iff.1 hget
  exact (Json.isRead_object.1 h).2 field (List.mem_of_find?_eq_some hfield)

theorem Json.isRead_nil : Json.IsRead (.object []) :=
  Json.isRead_object.2 (by simp)

/-- The settings of a checked draft, if they are told, are a field of its value. -/
theorem BlockDraft.get?_of_check {draft : BlockDraft} {params : Json.Fields}
    (h : BlockDraft.check (.object fields) = .ok draft) (hparams : draft.params = some params) :
    Json.get? fields "params" = some (.object params) := by
  obtain ⟨⟨type, variants, selectors, strategy, told, mode, ⟨⟩⟩, hfields, rfl⟩ := exists_of_map_ok h
  cases hparams
  have htold : Checked.optional fields "params" mapping = .ok (some params) := by
    simp only [both_ok] at hfields
    exact hfields.2.2.2.2.1
  obtain ⟨value, hget, hmapping⟩ := exists_of_optional htold
  cases value with
  | object _ =>
    cases hmapping
    exact hget
  | _ => cases hmapping

end

open Text

variable {document : RuleDocument}

/-! ## Settings -/

/-- Are the settings of a rule data that is read as it was written, apart from the length of integers? -/
def BlockRule.IsExact (rule : BlockRule) : Prop :=
  (Json.object rule.params).hasNoDecimals = true ∧ (Json.object rule.params).isDistinct = true

/-- Are all integers in the settings of a rule short enough to be read? -/
def BlockRule.IsReadable (rule : BlockRule) : Prop :=
  (Json.object rule.params).isReadable = true

/-- A test that values pass which hold neither numbers nor a name twice. -/
structure IsPassed (test : Json → Bool) : Prop where
  null : test .null = true
  text : ∀ content, test (.text content) = true
  list : ∀ items, test (.list items) = true
  object : ∀ fields : Json.Fields, (fields.map (·.1)).Nodup → test (.object fields) = true

namespace IsPassed

variable {test : Json → Bool}

theorem isNoDecimal : IsPassed Json.isNoDecimal :=
  ⟨rfl, fun _ => rfl, fun _ => rfl, fun _ _ => rfl⟩

theorem hasDistinctNames : IsPassed Json.hasDistinctNames :=
  ⟨rfl, fun _ => rfl, fun _ => rfl, fun _ h => decide_eq_true h⟩

theorem isShortInteger : IsPassed Json.isShortInteger :=
  ⟨rfl, fun _ => rfl, fun _ => rfl, fun _ _ => rfl⟩

theorem textsJson (h : IsPassed test) (texts : List String) :
    Json.everywhere test (PageBlocks.textsJson texts) = true := by
  refine Json.everywhere_list.2 ⟨h.list _, fun item hitem => ?_⟩
  obtain ⟨content, -, rfl⟩ := List.mem_map.1 hitem
  exact h.text content

theorem textOrNullJson (h : IsPassed test) (content : Option String) :
    Json.everywhere test (PageBlocks.textOrNullJson content) = true := by
  cases content with
  | none => exact h.null
  | some content => exact h.text content

theorem listOf (h : IsPassed test) {write : α → Json} {items : List α}
    (hitems : ∀ item ∈ items, Json.everywhere test (write item) = true) :
    Json.everywhere test (.list (items.map write)) = true := by
  refine Json.everywhere_list.2 ⟨h.list _, fun value hvalue => ?_⟩
  obtain ⟨item, hitem, rfl⟩ := List.mem_map.1 hvalue
  exact hitems item hitem

theorem cleanupEntry (h : IsPassed test) (entry : CleanupEntry) :
    Json.everywhere test entry.toJson = true := by
  cases entry with
  | selector content => exact h.text content
  | byAttribute selector =>
    refine Json.everywhere_object.2 ⟨h.object _ (by simp), ?_⟩
    simp only [List.forall_mem_cons, List.not_mem_nil, false_imp_iff, implies_true, and_true]
    exact ⟨h.text _, h.textOrNullJson _, h.text _⟩

theorem cleanup (h : IsPassed test) (cleanup : Cleanup) :
    Json.everywhere test cleanup.toJson = true := by
  refine Json.everywhere_object.2 ⟨h.object _ (by simp), ?_⟩
  simp only [List.forall_mem_cons, List.not_mem_nil, false_imp_iff, implies_true, and_true]
  exact ⟨h.listOf fun entry _ => h.cleanupEntry entry, h.listOf fun entry _ => h.cleanupEntry entry⟩

theorem blockRule (h : IsPassed test) {rule : BlockRule}
    (hparams : Json.everywhere test (.object rule.params) = true) :
    Json.everywhere test rule.toJson = true := by
  refine Json.everywhere_object.2 ⟨h.object _ (by simp), ?_⟩
  simp only [List.forall_mem_cons, List.not_mem_nil, false_imp_iff, implies_true, and_true]
  exact ⟨h.text _, h.textsJson _, h.textsJson _, h.textOrNullJson _, hparams, h.text _⟩

/-- A test holds everywhere in a document if it does in the settings of its blocks. -/
theorem ruleDocument (h : IsPassed test)
    (hparams : ∀ rule ∈ document.blocks, Json.everywhere test (.object rule.params) = true) :
    Json.everywhere test document.toJson = true := by
  refine Json.everywhere_object.2 ⟨h.object _ (by simp), ?_⟩
  simp only [List.forall_mem_cons, List.not_mem_nil, false_imp_iff, implies_true, and_true]
  refine ⟨h.textOrNullJson _, h.cleanup _, h.listOf fun rule hrule => h.blockRule (hparams rule hrule), ?_⟩
  refine h.listOf fun rule _ => Json.everywhere_object.2 ⟨h.object _ (by simp), ?_⟩
  simp only [List.forall_mem_cons, List.not_mem_nil, false_imp_iff, implies_true, and_true]
  exact h.text _

end IsPassed

/-! ## Documents by themselves -/

/-- Is a document read as it was written, apart from the length of integers? -/
def RuleDocument.IsExact (document : RuleDocument) : Prop :=
  ∀ rule ∈ document.blocks, rule.IsExact

/-- Are all integers in a document short enough to be read? -/
def RuleDocument.IsReadable (document : RuleDocument) : Prop :=
  ∀ rule ∈ document.blocks, rule.IsReadable

/-- The value of a document is read as it was written. -/
theorem RuleDocument.readsAs_toJson (hexact : document.IsExact) (hreadable : document.IsReadable) :
    document.toJson.ReadsAs document.toJson :=
  Json.readsAs_self (IsPassed.isShortInteger.ruleDocument hreadable)
    (IsPassed.isNoDecimal.ruleDocument fun rule hrule => (hexact rule hrule).1)
    (IsPassed.hasDistinctNames.ruleDocument fun rule hrule => (hexact rule hrule).2)

/-- A file whose value has a document for its part is loaded as the document. -/
theorem loadRules_of_readJsonFile {bytes? : Option (List UInt8)} {value : Json}
    (hread : readJsonFile bytes? = .ok value) (hpart : documentPart value = document.toJson) :
    loadRules bytes? = .ok document := by
  rw [loadRules, hread]
  simp only [hpart, RuleDocument.check_toJson]

/-! ## Entries of the store -/

theorem documentPart_storedEntry (site updatedAt : String) (document : RuleDocument) (extra : Json) :
    documentPart (storedEntry site updatedAt document extra) = document.toJson := rfl

/-- An entry is read as one of the same document. -/
theorem storedEntry_readsAs (hexact : document.IsExact) (hreadable : document.IsReadable)
    (site updatedAt : String) {extra other : Json} (hextra : extra.ReadsAs other) :
    (storedEntry site updatedAt document extra).ReadsAs (storedEntry site updatedAt document other) := by
  have hread : List.Forall₂ Json.FieldReadsAs
      [("key", .text (siteKey site)), ("site", .text site), ("updated_at", .text updatedAt),
        ("rules", document.toJson), ("extra_info", extra)]
      [("key", .text (siteKey site)), ("site", .text site), ("updated_at", .text updatedAt),
        ("rules", document.toJson), ("extra_info", other)] :=
    .cons ⟨rfl, Json.readsAs_text _⟩ <| .cons ⟨rfl, Json.readsAs_text _⟩ <|
      .cons ⟨rfl, Json.readsAs_text _⟩ <|
      .cons ⟨rfl, RuleDocument.readsAs_toJson hexact hreadable⟩ <| .cons ⟨rfl, hextra⟩ .nil
  have hobject := Json.readsAs_object hread
  rwa [Json.ofEntries_of_nodup (by simp)] at hobject

/-- A document that was put into the store is what the file of its site has for its part. -/
theorem readJsonFile_putRules (hexact : document.IsExact) (hreadable : document.IsReadable)
    {extra : Json} (hextra : extra.isReadable = true) (folder : Folder)
    (directory site updatedAt : String) :
    ∃ other, readJsonFile ((folder.putRules directory site updatedAt document extra).read?
      (sitePath directory site)) = .ok (storedEntry site updatedAt document other) := by
  obtain ⟨other, hother⟩ := Json.exists_readsAs extra hextra
  refine ⟨other, ?_⟩
  rw [Folder.putRules, Folder.writeJson, Folder.read?_write_self]
  exact readJsonFile_render (storedEntry_readsAs hexact hreadable site updatedAt hother)

/-- A document that was put into the store is loaded from the file of its site. -/
theorem loadRules_putRules (hexact : document.IsExact) (hreadable : document.IsReadable)
    {extra : Json} (hextra : extra.isReadable = true) (folder : Folder)
    (directory site updatedAt : String) :
    loadRules ((folder.putRules directory site updatedAt document extra).read?
      (sitePath directory site)) = .ok document := by
  obtain ⟨other, hread⟩ := readJsonFile_putRules hexact hreadable hextra folder directory site updatedAt
  exact loadRules_of_readJsonFile hread (documentPart_storedEntry _ _ _ _)

/-- The store hands out the document that was put into it. -/
theorem rulesOf?_putRules (hexact : document.IsExact) (hreadable : document.IsReadable)
    {extra : Json} (hextra : extra.isReadable = true) (folder : Folder)
    (directory site updatedAt : String) :
    (folder.putRules directory site updatedAt document extra).rulesOf? directory site = some document := by
  rw [Folder.rulesOf?, loadRules_putRules hexact hreadable hextra]
  rfl

/-! ## Both ways -/

/-- The document with one block that has a number in its settings. -/
def numbered (number : Int) : RuleDocument :=
  ⟨some defaultRoot, .none, [⟨"note", [], [], none, [("n", .integer number)], .replace⟩], []⟩

open Json

/-- A rule with the numbers that the decimals in its settings stand for. -/
def BlockRule.rounded (rule : BlockRule) : BlockRule :=
  { rule with params := fieldsRounded rule.params }

/-- A document with the numbers that the decimals in the settings of its blocks stand for. -/
def RuleDocument.rounded (document : RuleDocument) : RuleDocument :=
  { document with blocks := document.blocks.map BlockRule.rounded }

/-- Are the names in each object among the settings of a rule distinct? -/
def BlockRule.IsDistinct (rule : BlockRule) : Prop :=
  (Json.object rule.params).isDistinct = true

variable {rule : BlockRule}

/-- A value that is neither a number nor has a name twice is read as itself. -/
theorem rereadsAs_passed {value : Json} (h : ∀ {test}, IsPassed test → value.everywhere test = true) :
    value.RereadsAs value :=
  ⟨readsAs_self (h .isShortInteger) (h .isNoDecimal) (h .hasDistinctNames), rfl⟩

/-- Settings are read as settings with the same numbers. -/
theorem BlockRule.exists_rereadsAs (hdistinct : rule.IsDistinct) (hreadable : rule.IsReadable) :
    ∃ other : BlockRule, rule.toJson.RereadsAs other.toJson ∧ other.rounded = rule.rounded := by
  obtain ⟨value, hvalue⟩ := Json.exists_rereadsAs _ hreadable hdistinct
  obtain ⟨params, rfl⟩ : ∃ params, value = .object params := by
    have hrounded := hvalue.2
    cases value with
    | object params => exact ⟨params, rfl⟩
    | _ => cases hrounded
  have hparams : fieldsRounded params = fieldsRounded rule.params := Json.object.inj hvalue.2
  refine ⟨{ rule with params := params }, ?_, by rw [rounded, rounded, hparams]⟩
  refine .object (by simp) <| .cons ⟨rfl, rereadsAs_passed fun h => h.text _⟩ <|
    .cons ⟨rfl, rereadsAs_passed fun h => h.textsJson _⟩ <|
    .cons ⟨rfl, rereadsAs_passed fun h => h.textsJson _⟩ <|
    .cons ⟨rfl, rereadsAs_passed fun h => h.textOrNullJson _⟩ <|
    .cons ⟨rfl, hvalue⟩ <| .cons ⟨rfl, rereadsAs_passed fun h => h.text _⟩ .nil

/-- The value of a document is read as that of one with the same numbers. -/
theorem RuleDocument.exists_rereadsAs (hdistinct : ∀ rule ∈ document.blocks, rule.IsDistinct)
    (hreadable : document.IsReadable) :
    ∃ other : RuleDocument, document.toJson.RereadsAs other.toJson ∧
      other.rounded = document.rounded := by
  obtain ⟨blocks, hblocks⟩ := exists_forall₂ fun rule hrule =>
    BlockRule.exists_rereadsAs (hdistinct rule hrule) (hreadable rule hrule)
  have hrounded : blocks.map BlockRule.rounded = document.blocks.map BlockRule.rounded :=
    map_eq_of_forall₂ _ _ hblocks fun _ _ => And.right
  have hlist : (Json.list (document.blocks.map BlockRule.toJson)).RereadsAs
      (.list (blocks.map BlockRule.toJson)) := by
    refine .list ?_
    rw [List.forall₂_map_left_iff, List.forall₂_map_right_iff]
    exact hblocks.imp fun _ _ => And.left
  refine ⟨{ document with blocks := blocks }, ?_, by rw [rounded, rounded, hrounded]⟩
  refine .object (by simp) <| .cons ⟨rfl, rereadsAs_passed fun h => h.textOrNullJson _⟩ <|
    .cons ⟨rfl, rereadsAs_passed fun h => h.cleanup _⟩ <| .cons ⟨rfl, hlist⟩ <|
    .cons ⟨rfl, rereadsAs_passed fun h => h.listOf fun rule _ => ?_⟩ .nil
  refine Json.everywhere_object.2 ⟨h.object _ (by simp), ?_⟩
  simp only [List.forall_mem_cons, List.not_mem_nil, false_imp_iff, implies_true, and_true]
  exact h.text _

end PageBlocks
