import PageBlocks.Proofs.Import.Trees
/-!
# Where blocks end up

A block is put to the start or the end of the content, or to the place of the element that it was
made from.  In the last case all that counts for the placing is that something holds that element,
which need not be the content: an element inside one that was replaced before is still held, and so
is the content itself.  So the block is in the content afterwards just when the element was.

## Main results

* `Import.isBelow_place?` — where one block ends up.
* `Import.placed_straight` — no block is placed inside itself.
* `Import.placed_in_content_iff` — which blocks of a run are in the content once they are placed.
* `Import.content_loses_block` — rules that lose a block.
-/

namespace PageBlocks

open Dom

/-- A host that keeps pages what they are: its operations lose no node of a page, and the blocks
that it makes are nodes of the page. -/
structure Host.Lawful (host : Host) : Prop where
  metadata : host.KnowsCarefully ∅
  createBlock : ∀ dom name variants cells, dom.WellFormed → cells.IsFree ∅ dom →
    Extends dom (host.createBlock dom name variants cells).2 ∧
      ∀ block, (host.createBlock dom name variants cells).1 = .ok (some block) →
        (host.createBlock dom name variants cells).2.Has block
  removeElements : ∀ dom root selectors, dom.WellFormed →
    Extends dom (host.removeElements dom root selectors)

/-- A host that is careful with guarded nodes is so in particular when nothing is guarded. -/
theorem Host.Careful.lawful {host : Host} (h : host.Careful) : host.Lawful where
  metadata := h.metadata ∅
  createBlock := by
    intro dom name variants cells wf hcells
    have hmade := h.createBlock ∅ documentId dom name variants cells (.empty wf _) hcells
    exact ⟨hmade.changes.extends wf, fun block hblock => (hmade.free _ hblock block rfl).2⟩
  removeElements := by
    intro dom root selectors wf
    exact (h.removeElements ∅ root dom selectors (.empty wf root)).extends wf

namespace Import

variable {host : Host} {params : Params} {root element block : NodeId} {task : Task}
  {dom after : Dom}

/-! ## One block -/

/-- A block that replaces an element gets its parent. -/
theorem parent?_replaceWith {q : NodeId} (wf : dom.WellFormed) (has : dom.Has block)
    (hq : dom.parent? element = some q) (hne : element ≠ block) (hin : ¬dom.IsBelow block element) :
    (dom.replaceWith element block).parent? block = some q := by
  have hinsert : Change ∅ ∅ dom (dom.insertBefore element block) :=
    .insertBefore (Set.notMem_empty _) (Set.notMem_empty _) has hq hne hin
  have wf1 := (hinsert.extends wf).wellFormed
  have hheld : (dom.insertBefore element block).Holds q block := by
    have hmem : element ∈ swap block [] (dom.kids q) := by
      rw [mem_swap_of_ne List.not_mem_nil]
      exact ⟨wf.parent?_eq_some_iff.1 hq, hne⟩
    rw [Holds, (rearranges_insertBefore wf has hq hne hin).kids rfl]
    exact mem_swap_of_mem List.mem_cons_self hmem
  have hdetach : Change {block} ∅ (dom.insertBefore element block)
      ((dom.insertBefore element block).detach element) := .detach hne
  rw [replaceWith, if_neg hne, hdetach.parent?_eq wf1 rfl hheld.has_right]
  exact wf1.parent?_eq_some_iff.2 hheld

/-- A block that replaces an element is below what the element was below. -/
theorem isBelow_replaceWith {q : NodeId} (wf : dom.WellFormed) (has : dom.Has block)
    (hq : dom.parent? element = some q) (hne : element ≠ block) (hin : ¬dom.IsBelow block element) :
    (dom.replaceWith element block).IsBelow root block ↔ dom.IsBelow root element := by
  have hheld := wf.parent?_eq_some_iff.1 hq
  have hnew := parent?_replaceWith wf has hq hne hin
  have hext := extends_replaceWith wf element block
  -- What is around the element stays where it is, with all that is around the content.
  have habove : (dom.replaceWith element block).IsBelow root q ↔ dom.IsBelow root q := by
    have hg := (Guarded.empty wf q).around hheld.has_left (.inl (Set.notMem_empty q))
    have hout {x : NodeId} (hx : x = element ∨ x = block) :
        x ∉ (∅ ∪ {k | k = q ∨ dom.IsBelow k q} : Set NodeId) := by
      rintro (hmem | rfl | hmem)
      · exact hmem
      · rcases hx with rfl | rfl
        · exact wf.not_isBelow_self _ hheld.isBelow
        · exact hin hheld.isBelow
      · rcases hx with rfl | rfl
        · exact wf.not_isBelow_self _ (wf.isBelow_of_holds hmem hheld)
        · exact hin (wf.isBelow_of_holds hmem hheld)
    have hchanges : Changes (∅ ∪ {k | k = q ∨ dom.IsBelow k q}) ∅ dom
        (dom.replaceWith element block) := by
      rw [replaceWith, if_neg hne]
      exact .tail (.single (.insertBefore (hout (.inr rfl)) (Set.notMem_empty q) has hq hne hin))
        (.detach (hout (.inl rfl)))
    exact hg.isBelow_iff hchanges subset_rfl (.inr (.inl rfl))
  rw [hext.wellFormed.isBelow_iff_of_parent hnew, habove, ← wf.isBelow_iff_of_parent hq]

/-- A block is in the content afterwards unless it replaces an element outside. -/
theorem isBelow_place? {mode : InsertMode} (wf : dom.WellFormed)
    (htag : ∃ tag, dom.tag? root = some tag) (has : dom.Has block)
    (h : place? dom root element block mode = some after) (hstraight : after.looped = false) :
    after.IsBelow root block ↔ (mode = .replace → dom.IsBelow root element) := by
  obtain ⟨tag, htag⟩ := htag
  cases mode with
  | append =>
    cases h
    obtain ⟨hne, hin⟩ := apart_of_append wf has htag hstraight
    have hheld : (dom.append root block).Holds root block := by
      rw [Holds, (rearranges_append wf has htag hne hin).kids_of_tag htag, if_pos rfl]
      exact List.mem_append_right _ List.mem_cons_self
    exact iff_of_true hheld.isBelow fun hmode => by cases hmode
  | prepend =>
    cases h
    obtain ⟨hne, hin⟩ := apart_of_prepend wf has htag hstraight
    have hheld : (dom.prepend root block).Holds root block := by
      rw [Holds, (rearranges_prepend wf has htag hne hin).kids_of_tag htag, if_pos rfl]
      exact List.mem_cons_self
    exact iff_of_true hheld.isBelow fun hmode => by cases hmode
  | replace =>
    rw [place?] at h
    split at h
    · cases h
    · next hparent =>
      cases h
      rw [Option.isNone_iff_eq_none] at hparent
      obtain ⟨q, hq⟩ := Option.ne_none_iff_exists'.1 hparent
      have hiff : (dom.replaceWith element block).IsBelow root block ↔
          dom.IsBelow root element := by
        by_cases heq : element = block
        · rw [replaceWith, if_pos heq, heq]
        · have hinsert := extends_insertBefore wf element block
          rw [replaceWith, if_neg heq, (rearranges_detach hinsert.wellFormed element).looped]
            at hstraight
          exact isBelow_replaceWith wf has hq heq (apart_of_insertBefore wf has hq hstraight).2
      rw [hiff]
      exact ⟨fun hbelow _ => hbelow, fun hbelow => hbelow rfl⟩

/-- Placing a block loses no node. -/
theorem extends_place? {mode : InsertMode} (wf : dom.WellFormed)
    (h : place? dom root element block mode = some after) : Extends dom after := by
  cases mode with
  | append =>
    cases h
    exact extends_append wf root block
  | prepend =>
    cases h
    exact extends_prepend wf root block
  | replace =>
    rw [place?] at h
    split at h
    · cases h
    · cases h
      exact extends_replaceWith wf element block

/-! ## All blocks of a run -/

theorem removeEntries_extends (hhost : host.Lawful) (entries : List CleanupEntry)
    (wf : dom.WellFormed) : Extends dom (removeEntries host dom root entries) := by
  have hfound : Extends dom
      (if (elementSelectors entries).isEmpty then dom
      else host.removeElements dom root (elementSelectors entries)) := by
    split
    · exact .refl wf
    · exact hhost.removeElements dom root _ wf
  have hg := Guarded.empty hfound.wellFormed root
  exact hfound.trans ((removeRest_changes entries hg).extends hfound.wellFormed)

/-- A placing that is told right by where the element was, if it left no loop. -/
def Placement.IsTold (root : NodeId) (placement : Placement) : Prop :=
  placement.after.looped = false →
    (placement.after.IsBelow root placement.block ↔
      (placement.mode = .replace → placement.before.IsBelow root placement.candidate))

theorem createBlock_told (hhost : host.Lawful) {cells : Value} (wf : dom.WellFormed)
    (htag : ∃ tag, dom.tag? root = some tag) (hcells : cells.IsFree ∅ dom) :
    Extends dom (createBlock host root task dom element cells).2 ∧
      ∀ creation, (createBlock host root task dom element cells).1 = .ok creation →
        ∀ placement ∈ creation.placement, placement.IsTold root := by
  obtain ⟨hext, hblock⟩ := hhost.createBlock dom (host.blockName task.rule.type)
    task.rule.variants cells wf hcells
  rw [createBlock]
  dsimp only
  split
  · exact ⟨hext, fun creation hok => by cases hok⟩
  · exact ⟨hext, fun creation hok placement hp => by cases hok; cases hp⟩
  · next block hmade =>
    split
    · exact ⟨hext, fun creation hok placement hp => by cases hok; cases hp⟩
    · next after hplace =>
      refine ⟨hext.trans (extends_place? hext.wellFormed hplace),
        fun creation hok placement hp => ?_⟩
      cases hok
      cases hp
      obtain ⟨tag, htag⟩ := htag
      exact isBelow_place? hext.wellFormed (hext.element root tag htag) (hblock block hmade) hplace

theorem makeBlock_told (hhost : host.Lawful) (hfinder : CellFinder.Careful ∅ task.finder)
    (hp : Params.IsFree ∅ dom params) (wf : dom.WellFormed)
    (htag : ∃ tag, dom.tag? root = some tag) :
    Extends dom (makeBlock host params root task dom element).2 ∧
      ∀ creation, (makeBlock host params root task dom element).1 = .ok (some creation) →
        ∀ placement ∈ creation.placement, placement.IsTold root := by
  have hcells := findCells_careful hfinder (Guarded.empty wf element) hp
  have hfind := hcells.changes.extends wf
  rw [makeBlock]
  split
  · next fault mid hf =>
    rw [hf] at hfind
    exact ⟨hfind, fun creation hok => by cases hok⟩
  · next cells mid hf =>
    rw [hf] at hfind hcells
    split
    · obtain ⟨tag, htag⟩ := htag
      obtain ⟨hext, htold⟩ := createBlock_told hhost hfind.wellFormed (hfind.element root tag htag)
        (hcells.free cells rfl)
      refine ⟨hfind.trans hext, fun creation hok => ?_⟩
      obtain ⟨made, hmade, hsome⟩ := Cell.exists_of_map_eq_ok hok
      cases hsome
      exact htold creation hmade
    · exact ⟨hfind, fun creation hok => by cases hok⟩

/-- A careful host never places a block inside itself. -/
theorem placed_straight (hhost : host.Careful) (hp : IsPlain params) (document : RuleDocument)
    (wf : dom.WellFormed) (hl : dom.looped = false) {creations : List Creation}
    (hrun : (run host document params dom).1 = .ok (root, creations)) :
    ∀ creation ∈ creations, ∀ placement ∈ creation.placement, placement.after.looped = false := by
  intro creation hin placement hplaced
  have hmem : placement.after ∈ creation.pages := by
    rw [Creation.pages, Option.mem_def.1 hplaced]
    exact List.mem_cons_of_mem _ (List.mem_cons_of_mem _ List.mem_cons_self)
  have hpage := (run_lawful hhost hp document wf).2 root creations hrun creation hin _ hmem
  exact (hpage.looped_eq wf).trans hl

/-- A block that was placed in a run, and not inside itself, is in the content just then, unless it
replaced an element that was not. -/
theorem placed_in_content_iff (hhost : host.Lawful) (document : RuleDocument) (wf : dom.WellFormed)
    (hp : Params.IsFree ∅ dom params) {creations : List Creation}
    (hrun : (run host document params dom).1 = .ok (root, creations)) :
    ∀ creation ∈ creations, ∀ placement ∈ creation.placement, placement.after.looped = false →
      (placement.after.IsBelow root placement.block ↔
        (placement.mode = .replace → placement.before.IsBelow root placement.candidate)) := by
  have hinduct := run_induct host params (Extends dom)
    (fun creation => ∀ placement ∈ creation.placement,
      placement.IsTold (rootOf dom document.root)) document ?_ ?_ (.refl wf)
  · obtain ⟨rfl, hall⟩ := hinduct.2 root creations hrun
    exact hall
  · intro entries page hpage
    exact hpage.trans (removeEntries_extends hhost entries hpage.wellFormed)
  · intro rule hrule page hpage
    refine makeEach_induct host params (Extends dom) _ _ (Task.ofRule host rule) _ ?_ hpage
    intro candidate _ page hpage
    have hfinder : CellFinder.Careful ∅ (Task.ofRule host rule).finder :=
      Strategy.finder_careful hhost.metadata _
    obtain ⟨tag, htag⟩ := rootOf_element wf document.root
    obtain ⟨hext, htold⟩ := makeBlock_told hhost hfinder (hp.of_has hpage.has) hpage.wellFormed
      (hpage.element _ tag htag)
    exact ⟨hpage.trans hext, htold⟩

/-- The note of a page with a header is placed in its content. -/
theorem note_in_content :
    ∃ creations, (run (standardHost fun text => .ok text) noteRules [] headedPage).1 =
        .ok (3, creations) ∧
      ∃ creation ∈ creations, ∃ placement ∈ creation.placement,
        placement.after.IsBelow 3 placement.block := by
  have hfound : ((run (standardHost fun text => .ok text) noteRules [] headedPage).1.map
      fun result => decide (result.1 = 3 ∧ ∃ creation ∈ result.2, ∃ placement ∈ creation.placement,
        placement.before.IsBelow 3 placement.candidate)) = .ok true := by
    decide +kernel
  obtain ⟨⟨root, creations⟩, hrun, hplaced⟩ := Cell.exists_of_map_eq_ok hfound
  obtain ⟨rfl, creation, hin, placement, hp, hbelow⟩ := of_decide_eq_true hplaced
  have wf : headedPage.WellFormed :=
    ⟨by decide, (by decide : ∀ id ∈ headedPage.roots.ids, id < headedPage.fresh),
      ⟨documentTag, rfl⟩⟩
  have hhost := standardHost_careful fun text => .ok text
  have hstraight := placed_straight hhost (isPlain_ofFields []) noteRules wf rfl hrun creation hin
    placement hp
  have hiff := placed_in_content_iff hhost.lawful noteRules wf
    (fun entry he => absurd he List.not_mem_nil) hrun creation hin placement hp hstraight
  exact ⟨creations, hrun, creation, hin, placement, hp, hiff.2 fun _ => hbelow⟩

/-- A page with nothing but a paragraph as its content. -/
def shortPage : Dom where
  roots := .element documentId documentTag
    (.element 1 ⟨"main", .html, []⟩
      (.element 2 ⟨"p", .html, []⟩ (.leaf 3 (.text .plain "Body") .nil) .nil) .nil) .nil
  fresh := 4
  looped := false

/-- Rules by which the content as a whole becomes a note. -/
def contentRules : RuleDocument :=
  { RuleDocument.standard with
    blocks := [⟨"note", [], [], none, [("cells", .list [.text "p::text"])], .replace⟩] }

/-- A block that replaces the content counts as placed, but it is not in the content. -/
theorem content_loses_block :
    ∃ creations, (run (standardHost fun text => .ok text) contentRules [] shortPage).1 =
        .ok (1, creations) ∧
      ∃ creation ∈ creations, ∃ placement ∈ creation.placement,
        placement.after.looped = false ∧ ¬placement.after.IsBelow 1 placement.block := by
  have hfound : ((run (standardHost fun text => .ok text) contentRules [] shortPage).1.map
      fun result => decide (result.1 = 1 ∧ ∃ creation ∈ result.2, ∃ placement ∈ creation.placement,
        placement.after.looped = false ∧
          ¬placement.after.IsBelow 1 placement.block)) = .ok true := by
    decide +kernel
  obtain ⟨⟨root, creations⟩, hrun, hlost⟩ := Cell.exists_of_map_eq_ok hfound
  obtain ⟨rfl, hlost⟩ := of_decide_eq_true hlost
  exact ⟨creations, hrun, hlost⟩

end Import

end PageBlocks
