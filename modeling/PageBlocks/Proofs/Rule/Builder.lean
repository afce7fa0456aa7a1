import PageBlocks.Proofs.Rule.Written
import PageBlocks.Rule.Builder
/-!
# What a builder holds

A builder that was only given data that makes sense holds nothing but a document: to finish it hands
that document out, and each of its operations is one on documents.

A rule that is added goes into the first rule for its type of blocks, or to the end when there is
none.  What comes of a whole series of rules is told by type: where the rules for a type stand is
settled by the types alone, and each field of the first of them by what was told for it, in order.

## Main results

* `union_eq` — a union is all items of two lists in order, without repetitions.
* `RuleBuilder.build_holding` — the document of a builder that holds one.
* `RuleBuilder.ofDocument_eq` — what starts from a document holds it, with each entry once.
* `RuleBuilder.mergeInto_append` — a rule goes into the first part of a list or into the second one.
* `RuleBuilder.find?_foldl_mergeInto` — the first rule for a type has the history of that type.
* `RuleBuilder.addBlock_settles` — the document after any series of rules.
-/

namespace PageBlocks

/-! ## Unions -/

section

variable [DecidableEq α]

theorem nodup_eraseDups : (items : List α) → items.eraseDups.Nodup
  | [] => by simp
  | item :: items => by
    have hrest := nodup_eraseDups (items.filter fun other => !other == item)
    rw [List.eraseDups_cons, List.nodup_cons]
    refine ⟨fun hmem => ?_, hrest⟩
    simp at hmem
termination_by items => items.length
decreasing_by
  have := List.length_filter_le (fun other => !other == item) items
  simp only [List.length_cons]
  omega

theorem eraseDups_of_nodup {items : List α} (h : items.Nodup) : items.eraseDups = items := by
  induction items with
  | nil => rfl
  | cons item items ih =>
    obtain ⟨hnew, hrest⟩ := List.nodup_cons.1 h
    have hkept : (items.filter fun other => !other == item) = items := by
      refine List.filter_eq_self.2 fun other hother => ?_
      have hne : other ≠ item := fun heq => hnew (heq ▸ hother)
      simpa using hne
    rw [List.eraseDups_cons, hkept, ih hrest]

/-- Adding items one by one adds those that are new, each once. -/
theorem foldl_insertNew (seen items : List α) :
    items.foldl (insertNew fun a b => decide (a = b)) seen =
      seen ++ (items.removeAll seen).eraseDups := by
  induction items generalizing seen with
  | nil => simp
  | cons item items ih =>
    rw [List.foldl_cons, ih, insertNew]
    by_cases hin : item ∈ seen
    · have hany : (seen.any fun other => decide (item = other)) = true := by
        simpa using hin
      have hdrop : (item :: items).removeAll seen = items.removeAll seen := by
        simp [List.cons_removeAll, hin]
      rw [if_pos hany, hdrop]
    · have hany : ¬(seen.any fun other => decide (item = other)) = true := by
        simpa using hin
      have hkeep : (item :: items).removeAll seen = item :: items.removeAll seen := by
        simp [List.cons_removeAll, hin]
      have hmore : (items.removeAll seen).filter (fun other => !other == item) =
          items.removeAll (seen ++ [item]) := by
        simp only [List.removeAll, List.filter_filter]
        refine List.filter_congr fun other _ => ?_
        by_cases ho : other = item <;> simp [ho]
      rw [if_neg hany, hkeep, List.eraseDups_cons, hmore]
      simp

theorem union_eq (first second : List α) : union first second = (first ++ second).eraseDups := by
  rw [union, foldl_insertNew, List.nil_append, List.removeAll_nil]

theorem eraseDups_append_left (first second : List α) :
    (first.eraseDups ++ second).eraseDups = (first ++ second).eraseDups := by
  have hsame : second.removeAll first.eraseDups = second.removeAll first := by
    refine List.filter_congr fun item _ => ?_
    by_cases hi : item ∈ first <;> simp [hi]
  rw [List.eraseDups_append, List.eraseDups_append, hsame,
    eraseDups_of_nodup (nodup_eraseDups first)]

end

/-! ## Builders that hold a document -/

/-- The entries of a document, each once. -/
def Cleanup.distinct (cleanup : Cleanup) : Cleanup :=
  ⟨cleanup.start.eraseDups, cleanup.finish.eraseDups⟩

/-- Is each entry there only once? -/
def Cleanup.IsDistinct (cleanup : Cleanup) : Prop :=
  cleanup.start.Nodup ∧ cleanup.finish.Nodup

theorem Cleanup.IsDistinct.distinct_eq {cleanup : Cleanup} (h : cleanup.IsDistinct) :
    cleanup.distinct = cleanup := by
  rw [distinct, eraseDups_of_nodup h.1, eraseDups_of_nodup h.2]

namespace RuleBuilder

/-- The builder that holds a document. -/
def holding (document : RuleDocument) : RuleBuilder where
  root := textOrNullJson document.root
  start := document.cleanup.start.map .checked
  finish := document.cleanup.finish.map .checked
  blocks := document.blocks
  transformers := document.transformers

theorem build_holding (document : RuleDocument) : (holding document).build = .ok document := by
  have hentry (entry : CleanupEntry) : PendingEntry.check (.checked entry) = .ok entry := rfl
  have hentries := Checked.items_map hentry
  simp [build, holding, hentries, Checked.textOrNull_textOrNullJson, Checked.inside, Checked.both, bind,
    Except.bind]

theorem ofDocument_eq (document : RuleDocument) :
    ofDocument document = holding { document with cleanup := document.cleanup.distinct } := by
  obtain ⟨root, cleanup, blocks, transformers⟩ := document
  cases root <;> simp [ofDocument, holding, Cleanup.distinct, union_eq, textOrNullJson]

theorem ofDocument_of_isDistinct {document : RuleDocument} (h : document.cleanup.IsDistinct) :
    ofDocument document = holding document := by
  rw [ofDocument_eq, h.distinct_eq]

end RuleBuilder

/-! ## What is told for a type -/

/-- Lists that were told one after another as a single one: several of them without repetitions, and
one of them as it is. -/
def joined (lists : List (List String)) : List String :=
  match lists with
  | [list] => list
  | lists => lists.flatten.eraseDups

/-- What was last told for a field. -/
def lastTold (field : BlockDraft → Option α) (drafts : List BlockDraft) : Option α :=
  (drafts.filterMap field).getLast?

theorem lastTold_cons (field : BlockDraft → Option α) (draft : BlockDraft)
    (drafts : List BlockDraft) :
    lastTold field (draft :: drafts) = (lastTold field drafts).or (field draft) := by
  rw [lastTold, lastTold, List.filterMap_cons]
  cases field draft with
  | none => simp
  | some value =>
    rw [List.getLast?_cons]
    cases (drafts.filterMap field).getLast? <;> rfl

namespace RuleBuilder

variable {rule : BlockRule} {draft : BlockDraft} {rules before after : List BlockRule}
  {drafts : List BlockDraft}

/-! ## Where a rule goes -/

theorem foldl_addBlock (builder : RuleBuilder) (drafts : List BlockDraft) :
    drafts.foldl addBlock builder =
      { builder with
        blocks := drafts.foldl (fun rules draft => mergeInto draft rules) builder.blocks } := by
  induction drafts generalizing builder with
  | nil => rfl
  | cons draft drafts ih => rw [List.foldl_cons, ih]; rfl

theorem mergeInto_append (draft : BlockDraft) (before after : List BlockRule) :
    mergeInto draft (before ++ after) =
      if draft.type ∈ before.map (·.type) then mergeInto draft before ++ after
      else before ++ mergeInto draft after := by
  induction before with
  | nil => simp
  | cons rule before ih =>
    by_cases h : rule.type = draft.type
    · simp [mergeInto, h]
    · have hiff : draft.type ∈ (rule :: before).map (·.type) ↔ draft.type ∈ before.map (·.type) := by
        simp [Ne.symm h]
      simp only [List.cons_append, mergeInto, if_neg h, ih, hiff]
      split <;> rfl

/-- The types of blocks are told by their types alone: a new one goes to the end. -/
theorem types_mergeInto (draft : BlockDraft) (rules : List BlockRule) :
    (mergeInto draft rules).map (·.type) =
      insertNew (fun a b => decide (a = b)) (rules.map (·.type)) draft.type := by
  induction rules with
  | nil => rfl
  | cons rule rules ih =>
    by_cases h : rule.type = draft.type
    · simp [mergeInto, merge, insertNew, h]
    · have hne : draft.type ≠ rule.type := Ne.symm h
      rw [mergeInto, if_neg h, List.map_cons, ih]
      simp only [insertNew, List.map_cons, List.any_cons, hne, decide_false, Bool.false_or]
      split <;> rfl

theorem types_foldl_mergeInto (drafts : List BlockDraft) (rules : List BlockRule) :
    (drafts.foldl (fun rules draft => mergeInto draft rules) rules).map (·.type) =
      rules.map (·.type) ++ ((drafts.map (·.type)).removeAll (rules.map (·.type))).eraseDups := by
  rw [← foldl_insertNew]
  induction drafts generalizing rules with
  | nil => rfl
  | cons draft drafts ih => rw [List.foldl_cons, ih, types_mergeInto, List.map_cons, List.foldl_cons]

theorem types_mergeInto_of_mem (h : draft.type ∈ rules.map (·.type)) :
    (mergeInto draft rules).map (·.type) = rules.map (·.type) := by
  have hany : ((rules.map (·.type)).any fun type => decide (draft.type = type)) = true :=
    List.any_eq_true.2 ⟨draft.type, h, decide_eq_true rfl⟩
  rw [types_mergeInto, insertNew, if_pos hany]

/-- A rule behind another one for its type is left alone. -/
theorem getElem?_mergeInto {i : Nat} (h : rules[i]? = some rule)
    (hearlier : rule.type ∈ (rules.take i).map (·.type)) (draft : BlockDraft) :
    (mergeInto draft rules)[i]? = some rule := by
  obtain ⟨hi, rfl⟩ := List.getElem?_eq_some_iff.1 h
  have hsplit : rules.take i ++ rules[i] :: rules.drop (i + 1) = rules := by simp
  have hlength : (rules.take i).length = i := by simp; omega
  generalize hb : rules.take i = before at hsplit hlength hearlier
  generalize hr : rules[i] = rule at hsplit hearlier
  rw [← hsplit, mergeInto_append]
  split
  · next hin =>
    have hmerged : (mergeInto draft before).length = i := by
      have htypes := congrArg List.length (types_mergeInto_of_mem hin)
      rw [List.length_map, List.length_map] at htypes
      exact htypes.trans hlength
    rw [List.getElem?_append_right (by omega)]
    simp [hmerged]
  · next hout =>
    have hne : rule.type ≠ draft.type := fun heq => hout (heq ▸ hearlier)
    rw [List.getElem?_append_right (by omega)]
    simp [mergeInto, hne, hlength]

theorem getElem?_foldl_mergeInto {i : Nat} (h : rules[i]? = some rule)
    (hearlier : rule.type ∈ (rules.take i).map (·.type)) (drafts : List BlockDraft) :
    (drafts.foldl (fun rules draft => mergeInto draft rules) rules)[i]? = some rule := by
  induction drafts generalizing rules with
  | nil => exact h
  | cons draft drafts ih =>
    refine ih (getElem?_mergeInto h hearlier draft) ?_
    have hi : i < rules.length := (List.getElem?_eq_some_iff.1 h).1
    have htypes : ((mergeInto draft rules).take i).map (·.type) = (rules.take i).map (·.type) := by
      rw [List.map_take, types_mergeInto, insertNew, List.map_take]
      split
      · rfl
      · rw [List.take_append_of_le_length (by rw [List.length_map]; omega)]
    rw [htypes]
    exact hearlier

/-! ## What becomes of a rule -/

/-- The rule for a type after one more was told. -/
def afterDraft (existing : Option BlockRule) (draft : BlockDraft) : Option BlockRule :=
  match existing with
  | some rule => some (merge rule draft)
  | none => some draft.toRule

theorem find?_mergeInto (draft : BlockDraft) (rules : List BlockRule) (type : String) :
    (mergeInto draft rules).find? (·.type = type) =
      if draft.type = type then afterDraft (rules.find? (·.type = type)) draft
      else rules.find? (·.type = type) := by
  induction rules with
  | nil =>
    by_cases h : draft.type = type <;> simp [mergeInto, BlockDraft.toRule, afterDraft, h]
  | cons rule rules ih =>
    by_cases hr : rule.type = draft.type
    · by_cases h : draft.type = type
      · simp [mergeInto, merge, afterDraft, hr, h]
      · simp [mergeInto, merge, hr, h]
    · by_cases h : rule.type = type
      · have hne : draft.type ≠ type := fun heq => hr (h.trans heq.symm)
        rw [mergeInto, if_neg hr, if_neg hne]
        simp [h]
      · simp [mergeInto, hr, h, ih]

/-- The first rule for a type is what the rules that were told for the type make of it. -/
theorem find?_foldl_mergeInto (drafts : List BlockDraft) (rules : List BlockRule) (type : String) :
    (drafts.foldl (fun rules draft => mergeInto draft rules) rules).find? (·.type = type) =
      (drafts.filter (·.type = type)).foldl afterDraft (rules.find? (·.type = type)) := by
  induction drafts generalizing rules with
  | nil => rfl
  | cons draft drafts ih =>
    rw [List.foldl_cons, ih, find?_mergeInto]
    by_cases h : draft.type = type <;> simp [h]

theorem foldl_afterDraft (rule : BlockRule) (drafts : List BlockDraft) :
    drafts.foldl afterDraft (some rule) = some (drafts.foldl merge rule) := by
  induction drafts generalizing rule with
  | nil => rfl
  | cons draft drafts ih => exact ih (merge rule draft)

section

variable {list : BlockRule → List String} {told : BlockDraft → Option (List String)}

/-- A list that is extended by each rule that is told. -/
theorem list_foldl_merge
    (hlist : ∀ rule draft, list (merge rule draft) = union (list rule) ((told draft).getD []))
    (rule : BlockRule) (drafts : List BlockDraft) :
    list (drafts.foldl merge rule) =
      joined (list rule :: drafts.map fun draft => (told draft).getD []) := by
  cases drafts with
  | nil => rfl
  | cons draft drafts =>
    have hstep : ∀ (rule : BlockRule) (draft : BlockDraft), list ((draft :: drafts).foldl merge rule) =
        (list rule ++ ((draft :: drafts).map fun draft => (told draft).getD []).flatten).eraseDups := by
      induction drafts with
      | nil =>
        intro rule draft
        simp [hlist, union_eq]
      | cons next drafts ih =>
        intro rule draft
        have hnext := ih (merge rule draft) next
        rw [List.foldl_cons, hnext, hlist, union_eq, eraseDups_append_left]
        simp
    rw [hstep rule draft]
    rfl

end

section

variable (field : BlockRule → α) (told : BlockDraft → Option α)

/-- A field that is replaced by each rule that tells it. -/
theorem field_foldl_merge
    (hfield : ∀ rule draft, field (merge rule draft) = (told draft).getD (field rule))
    (rule : BlockRule) (drafts : List BlockDraft) :
    field (drafts.foldl merge rule) = (lastTold told drafts).getD (field rule) := by
  induction drafts generalizing rule with
  | nil => rfl
  | cons draft drafts ih =>
    rw [List.foldl_cons, ih, hfield, lastTold_cons]
    cases lastTold told drafts <;> rfl

end

/-- Each field of the first rule for a type, after all that was told for the type. -/
structure Settles (given : Option BlockRule) (drafts : List BlockDraft) (rule : BlockRule) : Prop where
  selectors : rule.selectors =
    joined ((given.map (·.selectors)).toList ++ drafts.map fun draft => draft.selectors.getD [])
  variants : rule.variants =
    joined ((given.map (·.variants)).toList ++ drafts.map fun draft => draft.variants.getD [])
  strategy : rule.strategy = ((lastTold (·.strategy) drafts).or (given.map (·.strategy))).getD none
  params : rule.params = ((lastTold (·.params) drafts).or (given.map (·.params))).getD []
  mode : rule.mode = ((lastTold (·.mode) drafts).or (given.map (·.mode))).getD .replace

theorem settles_foldl_merge (rule : BlockRule) (drafts : List BlockDraft) :
    Settles (some rule) drafts (drafts.foldl merge rule) where
  selectors := list_foldl_merge (fun _ _ => rfl) rule drafts
  variants := list_foldl_merge (fun _ _ => rfl) rule drafts
  strategy := by
    rw [field_foldl_merge (·.strategy) (·.strategy) fun _ _ => rfl]
    cases lastTold (·.strategy) drafts <;> rfl
  params := by
    rw [field_foldl_merge (·.params) (·.params) fun _ _ => rfl]
    cases lastTold (·.params) drafts <;> rfl
  mode := by
    rw [field_foldl_merge (·.mode) (·.mode) fun _ _ => rfl]
    cases lastTold (·.mode) drafts <;> rfl

/-- The first rule that is told for a type stands for one that was given. -/
theorem settles_foldl_merge_toRule (draft : BlockDraft) (drafts : List BlockDraft) :
    Settles none (draft :: drafts) (drafts.foldl merge draft.toRule) := by
  have h := settles_foldl_merge draft.toRule drafts
  refine ⟨h.selectors, h.variants, h.strategy.trans ?_, h.params.trans ?_, h.mode.trans ?_⟩
  · rw [lastTold_cons]
    cases lastTold (·.strategy) drafts <;> cases hd : draft.strategy <;>
      simp [BlockDraft.toRule, hd]
  · rw [lastTold_cons]
    cases lastTold (·.params) drafts <;> cases hd : draft.params <;> simp [BlockDraft.toRule, hd]
  · rw [lastTold_cons]
    cases lastTold (·.mode) drafts <;> cases hd : draft.mode <;> simp [BlockDraft.toRule, hd]

theorem settles_of_foldl_afterDraft {given : Option BlockRule}
    (h : drafts.foldl afterDraft given = some rule) : Settles given drafts rule := by
  cases given with
  | some first =>
    rw [foldl_afterDraft, Option.some.injEq] at h
    exact h ▸ settles_foldl_merge first drafts
  | none =>
    cases drafts with
    | nil => cases h
    | cons draft drafts =>
      rw [List.foldl_cons, afterDraft, foldl_afterDraft, Option.some.injEq] at h
      exact h ▸ settles_foldl_merge_toRule draft drafts

/-! ## A series of rules -/

/-- A document after a series of rules: new types go to the end in the order in which they were
first told, each field of the first rule for a type has its history, and any further rule for a
type is left alone. -/
theorem addBlock_settles (document : RuleDocument) (drafts : List BlockDraft) :
    ∃ result, (drafts.foldl addBlock (ofDocument document)).build = .ok result ∧
      result.blocks.map (·.type) = document.blocks.map (·.type) ++
        ((drafts.map (·.type)).removeAll (document.blocks.map (·.type))).eraseDups ∧
      (∀ type rule, result.blocks.find? (·.type = type) = some rule →
        Settles (document.blocks.find? (·.type = type)) (drafts.filter (·.type = type)) rule) ∧
      ∀ i rule, document.blocks[i]? = some rule →
        rule.type ∈ (document.blocks.take i).map (·.type) → result.blocks[i]? = some rule := by
  have hheld : drafts.foldl addBlock (ofDocument document) = holding { document with
      cleanup := document.cleanup.distinct
      blocks := drafts.foldl (fun rules draft => mergeInto draft rules) document.blocks } := by
    rw [foldl_addBlock, ofDocument_eq]
    rfl
  refine ⟨_, hheld ▸ build_holding _, types_foldl_mergeInto drafts document.blocks, ?_, ?_⟩
  · intro type rule hfind
    rw [find?_foldl_mergeInto] at hfind
    exact settles_of_foldl_afterDraft hfind
  · intro i rule hi hearlier
    exact getElem?_foldl_mergeInto hi hearlier drafts

example :
    ((([⟨"hero", none, some [".b", ".a"], none, none, none⟩] : List BlockDraft).foldl addBlock
      (ofDocument ⟨none, .none, [⟨"hero", [], [".a", ".a"], none, [], .append⟩], []⟩)).blocks.map
      fun rule => (rule.selectors, rule.mode)) = [([".a", ".b"], .append)] := by
  decide

end RuleBuilder

end PageBlocks
