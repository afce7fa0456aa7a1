import PageBlocks.Command.Rules
import PageBlocks.Proofs.Rule.Builder
import PageBlocks.Proofs.Store.RoundTrip
/-!
# Rules that are edited by one command after another

Each command loads the document of a site from its file, edits it in a builder of its own and writes it
back.  The builder starts with what a single builder, kept in memory over all commands, holds at the
time: what is stored is a document whose entries are distinct and whose settings are data that was read,
so that neither the file nor the new builder changes it.

## Main results

* `RulesTask.folder_of_failed` — a task that fails leaves all files as they are.
* `RulesTask.exists_holding_of_edit` — an edit takes a settled document to a settled one.
* `session_keeps` — after a session the store has the document of the builder in memory.
-/

namespace PageBlocks

open Text

/-! ## Builders that hold a document -/

namespace RuleBuilder

variable {document : RuleDocument}

theorem insertNew_checked (entries : List CleanupEntry) (entry : CleanupEntry) :
    insertNew PendingEntry.same (entries.map .checked) (.checked entry) =
      (insertNew (fun a b => decide (a = b)) entries entry).map .checked := by
  have hany : (entries.map PendingEntry.checked).any (PendingEntry.same (.checked entry)) =
      entries.any fun other => decide (entry = other) := by
    rw [List.any_map]
    rfl
  rw [insertNew, insertNew, hany]
  split <;> simp

theorem nodup_insertNew [DecidableEq α] {items : List α} (h : items.Nodup) (item : α) :
    (insertNew (fun a b => decide (a = b)) items item).Nodup := by
  rw [insertNew]
  split
  · exact h
  · next hany =>
    have hnew : item ∉ items := by simpa using hany
    rw [List.nodup_append]
    refine ⟨h, by simp, ?_⟩
    rintro other hother _ hitem rfl
    exact hnew (List.mem_singleton.1 hitem ▸ hother)

/-- To add an entry to a held document is to add it to its cleanup. -/
theorem exists_addEntry_holding (h : document.cleanup.IsDistinct) (phase : CleanupPhase)
    (entry : CleanupEntry) :
    ∃ cleanup : Cleanup, cleanup.IsDistinct ∧ (holding document).addEntry phase (.checked entry) =
      holding { document with cleanup := cleanup } := by
  obtain ⟨hstart, hfinish⟩ := h
  cases phase with
  | start =>
    refine ⟨⟨insertNew (fun a b => decide (a = b)) document.cleanup.start entry,
      document.cleanup.finish⟩, ⟨nodup_insertNew hstart entry, hfinish⟩, ?_⟩
    simp [addEntry, holding, insertNew_checked]
  | finish =>
    refine ⟨⟨document.cleanup.start,
      insertNew (fun a b => decide (a = b)) document.cleanup.finish entry⟩,
      ⟨hstart, nodup_insertNew hfinish entry⟩, ?_⟩
    simp [addEntry, holding, insertNew_checked]

theorem exists_addEntries_holding (selectors : List String) (phase : CleanupPhase) :
    ∀ {document : RuleDocument}, document.cleanup.IsDistinct →
      ∃ cleanup : Cleanup, cleanup.IsDistinct ∧
        ((holding document).addEntries phase (selectors.map .text)).2 =
          holding { document with cleanup := cleanup } := by
  induction selectors with
  | nil => exact fun {document} h => ⟨document.cleanup, h, rfl⟩
  | cons selector selectors ih =>
    intro document h
    obtain ⟨cleanup, hdistinct, hentry⟩ := exists_addEntry_holding h phase (.selector selector)
    obtain ⟨after, hafter, hentries⟩ := @ih { document with cleanup := cleanup } hdistinct
    refine ⟨after, hafter, ?_⟩
    rw [List.map_cons, addEntries]
    simp only [PendingEntry.ofJson, hentry, hentries]

/-- To add selectors to a held document is to add them to its cleanup. -/
theorem exists_addCleanup_holding (h : document.cleanup.IsDistinct) (selectors : List String)
    (phase : String) :
    ∃ cleanup : Cleanup, cleanup.IsDistinct ∧
      ((holding document).addCleanup (.list (selectors.map .text)) (.text phase)).2 =
        holding { document with cleanup := cleanup } := by
  rw [addCleanup]
  split
  · exact ⟨document.cleanup, h, rfl⟩
  · next phase _ => exact exists_addEntries_holding selectors phase h

theorem mem_mergeInto {draft : BlockDraft} {rules : List BlockRule} {rule : BlockRule}
    (h : rule ∈ mergeInto draft rules) :
    (∃ other ∈ rules, rule.params = other.params) ∨ rule.params = draft.params.getD [] := by
  induction rules with
  | nil =>
    rw [List.mem_singleton.1 h]
    exact .inr rfl
  | cons first rules ih =>
    rw [mergeInto] at h
    split at h
    · obtain rfl | h := List.mem_cons.1 h
      · cases hparams : draft.params with
        | none => exact .inl ⟨first, List.mem_cons_self, by simp [merge, hparams]⟩
        | some params => exact .inr (by simp [merge, hparams])
      · exact .inl ⟨rule, .tail _ h, rfl⟩
    · obtain rfl | h := List.mem_cons.1 h
      · exact .inl ⟨rule, List.mem_cons_self, rfl⟩
      · obtain ⟨other, hother, heq⟩ | hparams := ih h
        · exact .inl ⟨other, .tail _ hother, heq⟩
        · exact .inr hparams

end RuleBuilder

/-! ## Settled documents -/

/-- Is a document one that neither a file nor a new builder changes? -/
structure RuleDocument.IsSettled (document : RuleDocument) : Prop where
  isExact : document.IsExact
  isReadable : document.IsReadable
  isDistinct : document.cleanup.IsDistinct

/-- The document that rules start as. -/
theorem isSettled_created (root : String) : RuleDocument.IsSettled ⟨some root, .none, [], []⟩ where
  isExact := by simp [RuleDocument.IsExact]
  isReadable := by simp [RuleDocument.IsReadable]
  isDistinct := by simp [Cleanup.IsDistinct, Cleanup.none]

namespace Command

variable {site : String} {document : RuleDocument} {workplace : Workplace} {memory : RuleBuilder}

/-- What a task does to a builder in memory, where creating rules starts a new one. -/
def RulesTask.edit : RulesTask → RuleBuilder → Except String RuleBuilder
  | .create _ root, _ => .ok ((RuleBuilder.ofDocument .standard).setRoot (.text root))
  | .addBlock _ given, memory => blockStep given memory
  | .addCleanup _ selectors phase, memory => cleanupStep selectors phase memory
  | .setRoot _ selector, memory => .ok (memory.setRoot (.text selector))
  | _, memory => .ok memory

/-- Does a task edit the rules of a site?  Cells that it is told may be any data without decimals. -/
inductive RulesTask.Edits (site : String) : RulesTask → Prop
  | create (root : String) : Edits site (.create site root)
  | addBlock (given : Given) : (∀ text cells, given.word? "cells" = some text →
      Json.parse text = .ok cells → cells.hasNoDecimals = true) → Edits site (.addBlock site given)
  | addCleanup (selectors : List String) (phase : String) : Edits site (.addCleanup site selectors phase)
  | setRoot (selector : String) : Edits site (.setRoot site selector)

/-- The settings in the data of a block rule are the cells that options tell. -/
theorem blockRuleData_params {given : Given} {value : Json} (h : blockRuleData given = .ok value) :
    ∃ fields, value = .object fields ∧ ∀ params, Json.get? fields "params" = some params →
      ∃ text cells, given.word? "cells" = some text ∧ Json.parse text = .ok cells ∧
        params = .object [("cells", cells)] := by
  unfold blockRuleData at h
  simp only at h
  cases hcells : (given.word? "cells").filter (!·.isEmpty) with
  | none =>
    rw [hcells] at h
    refine ⟨_, (Except.ok.inj h).symm, fun params hparams => ?_⟩
    cases hparse : (given.word? "parse").filter (!·.isEmpty) <;>
      cases hmode : (given.word? "insert_mode").filter (!·.isEmpty) <;>
      simp [Json.get?, hparse, hmode] at hparams
  | some text =>
    rw [hcells] at h
    obtain ⟨hword, -⟩ := Option.filter_eq_some_iff.1 hcells
    obtain ⟨cells, hcells, h⟩ := Json.exists_of_bind_eq_ok h
    refine ⟨_, (Except.ok.inj h).symm, fun params hparams => ⟨text, cells, hword, hcells, ?_⟩⟩
    cases hparse : (given.word? "parse").filter (!·.isEmpty) <;>
      simp [Json.get?, hparse] at hparams <;> exact hparams.symm

/-- To add the block rule that options tell to a held document is to add it to its blocks. -/
theorem exists_holding_of_blockStep {given : Given} (hcells : ∀ text cells,
      given.word? "cells" = some text → Json.parse text = .ok cells → cells.hasNoDecimals = true)
    (h : document.IsSettled) (hstep : blockStep given (.holding document) = .ok memory) :
    ∃ next : RuleDocument, next.IsSettled ∧ memory = .holding next := by
  unfold blockStep at hstep
  split at hstep
  · cases hstep
  next value hdata =>
  split at hstep
  · cases hstep
  next draft hdraft =>
  cases hstep
  obtain ⟨fields, rfl, hfields⟩ := blockRuleData_params hdata
  have hdraftParams : (Json.object (draft.params.getD [])).hasNoDecimals = true ∧
      Json.IsRead (.object (draft.params.getD [])) := by
    cases hparams : draft.params with
    | none => exact ⟨rfl, Json.isRead_nil⟩
    | some params =>
      obtain ⟨text, cells, hword, hparse, heq⟩ :=
        hfields _ (BlockDraft.get?_of_check hdraft hparams)
      cases heq
      refine ⟨Json.everywhere_object.2 ⟨rfl, ?_⟩, Json.isRead_object.2 ⟨by simp, ?_⟩⟩
      · simpa [Json.hasNoDecimals] using hcells text cells hword hparse
      · simpa using Json.isRead_of_parse hparse
  refine ⟨{ document with blocks := RuleBuilder.mergeInto draft document.blocks },
    ⟨fun rule hrule => ?_, fun rule hrule => ?_, h.isDistinct⟩, rfl⟩
  · obtain ⟨other, hother, heq⟩ | heq := RuleBuilder.mem_mergeInto hrule
    · rw [BlockRule.IsExact, heq]
      exact h.isExact other hother
    · rw [BlockRule.IsExact, heq]
      exact ⟨hdraftParams.1, hdraftParams.2.isDistinct⟩
  · obtain ⟨other, hother, heq⟩ | heq := RuleBuilder.mem_mergeInto hrule
    · rw [BlockRule.IsReadable, heq]
      exact h.isReadable other hother
    · rw [BlockRule.IsReadable, heq]
      exact hdraftParams.2.isReadable

/-- An edit takes a settled document to a settled one. -/
theorem RulesTask.exists_holding_of_edit {task : RulesTask} (htask : task.Edits site)
    (h : document.IsSettled) (hedit : task.edit (.holding document) = .ok memory) :
    ∃ next : RuleDocument, next.IsSettled ∧ memory = .holding next := by
  cases htask with
  | create root =>
    cases hedit
    exact ⟨⟨some root, .none, [], []⟩, isSettled_created root, rfl⟩
  | addBlock given hcells => exact exists_holding_of_blockStep hcells h hedit
  | addCleanup selectors phase =>
    cases hedit
    obtain ⟨cleanup, hdistinct, heq⟩ :=
      RuleBuilder.exists_addCleanup_holding h.isDistinct selectors phase
    exact ⟨{ document with cleanup := cleanup }, ⟨h.isExact, h.isReadable, hdistinct⟩, heq⟩
  | setRoot selector =>
    cases hedit
    exact ⟨{ document with root := some selector }, ⟨h.isExact, h.isReadable, h.isDistinct⟩, rfl⟩

/-! ## What a task leaves -/

theorem folder_of_failed_save {builder : RuleBuilder} (h : (save workplace site builder).1.code ≠ 0) :
    (save workplace site builder).2 = workplace.folder := by
  unfold save at h ⊢
  split
  · rfl
  · next document hbuild =>
    rw [hbuild] at h
    by_cases hsite : isStorable site
    · simp [hsite, Report.done] at h
    · simp [hsite]

theorem folder_of_failed_change {step : RuleBuilder → Except String RuleBuilder}
    (h : (change workplace site step).1.code ≠ 0) :
    (change workplace site step).2 = workplace.folder := by
  unfold change at h ⊢
  split
  · rfl
  · next document hrules =>
    rw [hrules] at h
    dsimp only at h ⊢
    split
    · rfl
    · next builder hstep =>
      rw [hstep] at h
      exact folder_of_failed_save h

/-- A task that fails leaves all files as they are. -/
theorem RulesTask.folder_of_failed {task : RulesTask} (h : (task.run workplace).1.code ≠ 0) :
    (task.run workplace).2 = workplace.folder := by
  cases task with
  | list =>
    rw [RulesTask.run]
    split <;> rfl
  | «show» site =>
    rw [RulesTask.run]
    split <;> rfl
  | create site root =>
    rw [RulesTask.run] at h ⊢
    exact folder_of_failed_save h
  | addBlock site given =>
    rw [RulesTask.run] at h ⊢
    exact folder_of_failed_change h
  | addCleanup site selectors phase =>
    rw [RulesTask.run] at h ⊢
    exact folder_of_failed_change h
  | setRoot site selector =>
    rw [RulesTask.run] at h ⊢
    exact folder_of_failed_change h
  | delete site =>
    rw [RulesTask.run, deleteRules] at h ⊢
    split
    · next hholds => simp [hholds, Report.done] at h
    · rfl

/-- A settled document is kept and handed out again. -/
theorem save_holding (hsite : isStorable site = true) (h : document.IsSettled) (workplace : Workplace) :
    (save workplace site (.holding document)).1.code = 0 ∧
      (save workplace site (.holding document)).2.rulesOf? workplace.storeDirectory site =
        some document := by
  rw [save, RuleBuilder.build_holding]
  simp only [hsite, if_true]
  exact ⟨rfl, rulesOf?_putRules h.isExact h.isReadable rfl _ _ _ _⟩

/-- An edit of a settled document that is stored has the same outcome in the store as in memory. -/
theorem RulesTask.run_edit {task : RulesTask} (hsite : isStorable site = true)
    (htask : task.Edits site) (h : document.IsSettled) (hstored : workplace.rulesOf? site = some document)
    (hdone : (task.run workplace).1.code = 0) :
    ∃ next : RuleDocument, next.IsSettled ∧ task.edit (.holding document) = .ok (.holding next) ∧
      (task.run workplace).2.rulesOf? workplace.storeDirectory site = some next := by
  have hstart : RuleBuilder.ofDocument document = .holding document :=
    RuleBuilder.ofDocument_of_isDistinct h.isDistinct
  have hchange (step : RuleBuilder → Except String RuleBuilder)
      (hstep : ∀ memory, step (.holding document) = .ok memory →
        ∃ next : RuleDocument, next.IsSettled ∧ memory = .holding next)
      (hdone : (change workplace site step).1.code = 0) :
      ∃ next : RuleDocument, next.IsSettled ∧ step (.holding document) = .ok (.holding next) ∧
        (change workplace site step).2.rulesOf? workplace.storeDirectory site = some next := by
    simp only [change, hstored, hstart] at hdone ⊢
    cases hmemory : step (.holding document) with
    | error remark =>
      rw [hmemory] at hdone
      cases hdone
    | ok memory =>
      obtain ⟨next, hnext, rfl⟩ := hstep memory hmemory
      exact ⟨next, hnext, rfl, (save_holding hsite hnext workplace).2⟩
  have hedit (memory : RuleBuilder) (hmemory : task.edit (.holding document) = .ok memory) :=
    exists_holding_of_edit htask h hmemory
  cases htask with
  | create root =>
    obtain ⟨next, hnext, hholding⟩ := hedit _ rfl
    refine ⟨next, hnext, congrArg Except.ok hholding, ?_⟩
    rw [RulesTask.run, hholding]
    exact (save_holding hsite hnext workplace).2
  | addBlock given _ => exact hchange _ hedit hdone
  | addCleanup selectors phase => exact hchange _ hedit hdone
  | setRoot selector => exact hchange _ hedit hdone

/-! ## The file for records -/

/-- An empty file tells no rules. -/
theorem loadRules_nil : (loadRules (some [])).toOption = none := rfl

/-- To make sure that a file is there does not change the rules of a site. -/
theorem rulesOf?_ensure (folder : Folder) (path directory site : String) :
    (folder.ensure path).rulesOf? directory site = folder.rulesOf? directory site := by
  rw [Folder.ensure]
  split
  · rfl
  · next hmissing =>
    by_cases hpath : path = sitePath directory site
    · subst hpath
      have hnone : folder.read? (sitePath directory site) = none := by
        simpa [Folder.holds] using hmissing
      rw [Folder.rulesOf?_missing hnone, Folder.rulesOf?, Folder.read?_write_self, loadRules_nil]
    · rw [Folder.rulesOf?, Folder.rulesOf?, Folder.read?_write_of_ne hpath]

theorem rulesOf?_openLog (workplace : Workplace) (site : String) :
    workplace.openLog.rulesOf? site = workplace.rulesOf? site := by
  unfold Workplace.openLog
  split
  · exact rulesOf?_ensure workplace.folder _ workplace.storeDirectory site
  · rfl

theorem storeDirectory_openLog (workplace : Workplace) :
    workplace.openLog.storeDirectory = workplace.storeDirectory := by
  unfold Workplace.openLog
  split <;> rfl

theorem rulesOf?_withFolder (workplace : Workplace) (folder : Folder) (site : String) :
    (workplace.withFolder folder).rulesOf? site = folder.rulesOf? workplace.storeDirectory site := rfl

/-- A command that fails leaves the rules of all sites as they are. -/
theorem rulesOf?_of_failed {words : List String} (h : (runRules workplace words).1.code ≠ 0)
    (site : String) :
    (workplace.withFolder (runRules workplace words).2).rulesOf? site = workplace.rulesOf? site := by
  unfold runRules at h ⊢
  split
  · rfl
  · next task hread =>
    rw [hread] at h
    rw [RulesTask.folder_of_failed h, rulesOf?_withFolder, ← storeDirectory_openLog]
    exact rulesOf?_openLog workplace site

/-! ## Sessions -/

/-- A command at a time. -/
structure Order where
  time : String
  words : List String

/-- Does a command edit the rules of a site, if its words can be read? -/
def Order.Edits (order : Order) (site : String) : Prop :=
  ∀ task, RulesTask.read order.words = .ok task → task.Edits site

namespace Workplace

/-- The workplace at the time of a command. -/
def atTime (workplace : Workplace) (order : Order) : Workplace :=
  { workplace with time := order.time }

/-- The workplace after a command. -/
def after (workplace : Workplace) (order : Order) : Workplace :=
  (workplace.atTime order).withFolder (runRules (workplace.atTime order) order.words).2

end Workplace

/-- The builder in memory after a command, which takes part in it only if it does what it was told. -/
def remember (workplace : Workplace) (memory : RuleBuilder) (order : Order) : RuleBuilder :=
  if (runRules (workplace.atTime order) order.words).1.code = 0 then
    match RulesTask.read order.words with
    | .ok task => (task.edit memory).toOption.getD memory
    | .error _ => memory
  else memory

/-- The workplace and the builder in memory after commands. -/
def session (workplace : Workplace) (memory : RuleBuilder) : List Order → Workplace × RuleBuilder
  | [] => (workplace, memory)
  | order :: orders => session (workplace.after order) (remember workplace memory order) orders

/-- The store and the builder in memory have the same document, which is settled. -/
structure Agree (site : String) (workplace : Workplace) (memory : RuleBuilder)
    (document : RuleDocument) : Prop where
  isSettled : document.IsSettled
  stored : workplace.rulesOf? site = some document
  held : memory = .holding document

/-- A command keeps the store and the builder in memory in agreement. -/
theorem Agree.step (hsite : isStorable site = true) (h : Agree site workplace memory document)
    {order : Order} (horder : order.Edits site) :
    ∃ next, Agree site (workplace.after order) (remember workplace memory order) next := by
  obtain ⟨hsettled, hstored, rfl⟩ := h
  generalize hplace : workplace.atTime order = place
  have hstored : place.rulesOf? site = some document := by
    rw [← hplace]
    exact hstored
  rw [Workplace.after, remember, hplace]
  by_cases hdone : (runRules place order.words).1.code = 0
  · rw [if_pos hdone]
    cases hread : RulesTask.read order.words with
    | error ending =>
      refine ⟨document, hsettled, ?_, rfl⟩
      rw [runRules, hread]
      exact hstored
    | ok task =>
      rw [runRules, hread] at hdone ⊢
      obtain ⟨next, hnext, hedit, hrules⟩ := RulesTask.run_edit hsite (horder task hread) hsettled
        ((rulesOf?_openLog place site).trans hstored) hdone
      rw [storeDirectory_openLog] at hrules
      refine ⟨next, hnext, (rulesOf?_withFolder _ _ _).trans hrules, ?_⟩
      simp only [hedit, Except.toOption, Option.getD_some]
  · refine ⟨document, hsettled, (rulesOf?_of_failed hdone site).trans hstored, ?_⟩
    rw [if_neg hdone]

/-- Commands keep the store and the builder in memory in agreement. -/
theorem Agree.session (hsite : isStorable site = true) (orders : List Order) :
    ∀ {workplace : Workplace} {memory : RuleBuilder} {document : RuleDocument},
      Agree site workplace memory document → (∀ order ∈ orders, order.Edits site) →
      ∃ next, Agree site (session workplace memory orders).1 (session workplace memory orders).2 next := by
  induction orders with
  | nil => exact fun h _ => ⟨_, h⟩
  | cons order orders ih =>
    intro workplace memory document h horders
    obtain ⟨next, hnext⟩ := h.step hsite (horders order List.mem_cons_self)
    exact ih hnext fun other hother => horders other (.tail _ hother)

/-- The first command, which creates the rules of a site, makes the store and the builder agree. -/
theorem agree_create (hsite : isStorable site = true) {order : Order} {root : String}
    (horder : RulesTask.read order.words = .ok (.create site root)) (workplace : Workplace)
    (memory : RuleBuilder) :
    ∃ document, Agree site (workplace.after order) (remember workplace memory order) document := by
  rw [Workplace.after, remember]
  generalize workplace.atTime order = place
  have hrun : runRules place order.words =
      save place.openLog site (.holding ⟨some root, .none, [], []⟩) := by
    rw [runRules, horder]
    rfl
  obtain ⟨hdone, hrules⟩ := save_holding hsite (isSettled_created root) place.openLog
  rw [storeDirectory_openLog] at hrules
  rw [hrun, if_pos hdone, horder]
  exact ⟨⟨some root, .none, [], []⟩, isSettled_created root,
    (rulesOf?_withFolder _ _ _).trans hrules, rfl⟩

/-- After a session that creates the rules of a site and goes on to edit them, the store has the document
that a single builder in memory puts together, to which just the commands were applied that did what
they were told.  And whatever is told to the command, when it fails all rules stay as they were. -/
theorem session_keeps (hsite : isStorable site = true) {first : Order} {root : String}
    (hfirst : RulesTask.read first.words = .ok (.create site root)) {orders : List Order}
    (horders : ∀ order ∈ orders, order.Edits site) (workplace : Workplace) (memory : RuleBuilder) :
    (∃ document,
      (session workplace memory (first :: orders)).1.rulesOf? site = some document ∧
      (session workplace memory (first :: orders)).2.build = .ok document) ∧
    ∀ (place : Workplace) (words : List String), (runRules place words).1.code ≠ 0 →
      ∀ site, (place.withFolder (runRules place words).2).rulesOf? site = place.rulesOf? site := by
  refine ⟨?_, fun place words hfailed => rulesOf?_of_failed hfailed⟩
  obtain ⟨created, hcreated⟩ := agree_create hsite hfirst workplace memory
  obtain ⟨document, hdocument⟩ := hcreated.session hsite orders horders
  refine ⟨document, hdocument.stored, ?_⟩
  rw [session, hdocument.held, RuleBuilder.build_holding]

/-- Rules that are created, given a block with cells, and not changed by a strategy that is not known. -/
theorem session_keeps_note :
    let orders : List Order := [⟨"2", ["add-block", "a.org", "note", "p", "--cells", "[[\"p::text\", 1]]"]⟩,
      ⟨"3", ["add-block", "a.org", "note", "--parse", "all"]⟩]
    ∃ document,
      (session ⟨"/", [], [], ""⟩ (.ofDocument .standard) (⟨"1", ["init", "a.org"]⟩ :: orders)).1.rulesOf?
        "a.org" = some document ∧
      (session ⟨"/", [], [], ""⟩ (.ofDocument .standard) (⟨"1", ["init", "a.org"]⟩ :: orders)).2.build =
        .ok document := by
  intro orders
  have hsite : isStorable "a.org" = true := by decide
  have hfirst : RulesTask.read ["init", "a.org"] = .ok (.create "a.org" "main") := by rfl
  have horders : ∀ order ∈ orders, order.Edits "a.org" := by
    simp only [orders, List.forall_mem_cons, List.not_mem_nil, false_imp_iff, implies_true, and_true]
    constructor
    · intro task hread
      have htask : RulesTask.addBlock "a.org" [("site", ["a.org"]), ("type", ["note"]),
          ("selectors", ["p"]), ("cells", ["[[\"p::text\", 1]]"])] = task := Except.ok.inj hread
      rw [← htask]
      refine .addBlock _ fun text cells hword hparse => ?_
      have htext : "[[\"p::text\", 1]]" = text := Option.some.inj hword
      have hcells : Json.list [.list [.text "p::text", .integer 1]] = cells := by
        rw [← htext] at hparse
        exact Except.ok.inj hparse
      rw [← hcells]
      rfl
    · intro task hread
      have htask : RulesTask.addBlock "a.org" [("site", ["a.org"]), ("type", ["note"]),
          ("selectors", []), ("parse", ["all"])] = task := Except.ok.inj hread
      rw [← htask]
      refine .addBlock _ fun text cells hword _ => ?_
      have hnone : (none : Option String) = some text := hword
      cases hnone
  exact (session_keeps hsite hfirst horders ⟨"/", [], [], ""⟩ (.ofDocument .standard)).1

end Command

end PageBlocks
