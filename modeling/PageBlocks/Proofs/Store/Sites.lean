import PageBlocks.Proofs.Store.Map
/-!
# Sites in the store

The files of a store are named after keys, in which a site loses all characters that names of files
should not have.  What is kept for a site is out of the reach of calls about another site just if the
keys of the two differ: sites with one key share a file, and the last of them that is put holds it.

## Main results

* `StoreCall.read?_performAll` — calls about one site change nothing but the file of its key.
* `StoreCall.leavesAlone_iff` — calls about a site leave another one alone just if their keys differ.
* `StoreCall.shared_key_overwrites` — two different sites that share a key.
-/

namespace PageBlocks

namespace StoreCall

variable {directory site other : String} {folder : Folder}

/-- Is a call about one site, and about which? -/
def site? : StoreCall → Option String
  | put site .. | get site | holds site | delete site => some site
  | clear | list => none

/-- A call about a site changes nothing but the file of its key. -/
theorem read?_perform_of_site? {call : StoreCall} (hsite : call.site? = some other) {path : String}
    (hpath : path ≠ sitePath directory other) :
    (call.perform directory folder).2.read? path = folder.read? path := by
  cases call with
  | put site updatedAt rules extra =>
    obtain rfl : site = other := Option.some.inj hsite
    rw [perform]
    split
    · exact Folder.read?_write_of_ne hpath.symm
    · rfl
  | delete site =>
    obtain rfl : site = other := Option.some.inj hsite
    rw [perform, Folder.read?_remove, if_neg hpath]
  | get | holds => rfl
  | clear | list => cases hsite

/-- Calls about one site change nothing but the file of its key. -/
theorem read?_performAll {calls : List StoreCall} (hcalls : ∀ call ∈ calls, call.site? = some other)
    {path : String} (hpath : path ≠ sitePath directory other) :
    (performAll directory folder calls).read? path = folder.read? path := by
  induction calls generalizing folder with
  | nil => rfl
  | cons call calls ih =>
    obtain ⟨hcall, hrest⟩ := List.forall_mem_cons.1 hcalls
    exact (ih hrest).trans (read?_perform_of_site? hcall hpath)

/-- Do calls about the other site never change what is told about a site, whatever the store holds? -/
def LeavesAlone (directory other site : String) : Prop :=
  ∀ (folder : Folder) (calls : List StoreCall), (∀ call ∈ calls, call.site? = some other) →
    ((get site).perform directory (performAll directory folder calls)).1 =
        ((get site).perform directory folder).1 ∧
      ((holds site).perform directory (performAll directory folder calls)).1 =
        ((holds site).perform directory folder).1

/-- Calls about a site leave another one alone just if the keys of the two differ. -/
theorem leavesAlone_iff (directory other site : String) :
    LeavesAlone directory other site ↔ siteKey site ≠ siteKey other := by
  constructor
  · intro halone hkey
    -- a file of that key, which a single call takes away
    have hsame : sitePath directory other = sitePath directory site := by
      rw [sitePath_eq, sitePath_eq, hkey]
    let folder : Folder := Folder.write [] (sitePath directory site) []
    have hbefore : folder.holds (sitePath directory site) = true := by
      rw [Folder.holds, Folder.read?_write_self]
      rfl
    have hafter : (performAll directory folder [delete other]).holds (sitePath directory site) =
        false := by
      have hgone := Folder.read?_remove_self folder (sitePath directory site)
      rw [← hsame] at hgone
      rw [Folder.holds, ← hsame]
      exact congrArg Option.isSome hgone
    have hequal := (halone folder [delete other] (by simp [site?])).2
    simp only [perform, hbefore, hafter, StoreAnswer.truth.injEq] at hequal
    cases hequal
  · intro hkey folder calls hcalls
    have hpath : sitePath directory site ≠ sitePath directory other :=
      fun heq => hkey (keyPath_injective heq)
    have hread : (performAll directory folder calls).read? (sitePath directory site) =
        folder.read? (sitePath directory site) := read?_performAll hcalls hpath
    constructor
    · simp only [perform, Folder.rulesOf?, hread]
    · simp only [perform, Folder.holds, hread]

/-- Rules that look for the article of a page. -/
def articleRules : RuleDocument :=
  ⟨some "article", .none, [], []⟩

/-- Two different sites that share a key: a call about the one overwrites the rules of the other. -/
theorem shared_key_overwrites :
    let folder := Folder.putRules [] "rules" "a/b" "now" .standard (.object [])
    let calls := [put "a:b" "later" articleRules (.object [])]
    "a/b" ≠ "a:b" ∧ (∀ call ∈ calls, call.site? = some "a:b") ∧
      ((get "a/b").perform "rules" folder).1 = .rules (some .standard) ∧
      ((get "a/b").perform "rules" (performAll "rules" folder calls)).1 =
        .rules (some articleRules) := by
  intro folder calls
  have hnoBlocks (document : RuleDocument) (hblocks : document.blocks = []) :
      document.IsExact ∧ document.IsReadable :=
    ⟨fun rule hrule => absurd (hblocks ▸ hrule) List.not_mem_nil,
      fun rule hrule => absurd (hblocks ▸ hrule) List.not_mem_nil⟩
  have hput (start : Folder) (site updatedAt : String) (document : RuleDocument)
      (hblocks : document.blocks = []) :
      (start.putRules "rules" site updatedAt document (.object [])).rulesOf? "rules" site =
        some document :=
    rulesOf?_putRules (hnoBlocks document hblocks).1 (hnoBlocks document hblocks).2
      (by decide) start "rules" site updatedAt
  have hkey : siteKey "a/b" = siteKey "a:b" := by decide +kernel
  have hsame : sitePath "rules" "a/b" = sitePath "rules" "a:b" := by
    rw [sitePath_eq, sitePath_eq, hkey]
  have hreadable : (storedEntry "a:b" "later" articleRules (.object [])).isReadable = true := by
    decide
  have hcalls : performAll "rules" folder calls =
      folder.putRules "rules" "a:b" "later" articleRules (.object []) := by
    simp only [calls, performAll, List.foldl_cons, List.foldl_nil, perform, hreadable, if_true]
  refine ⟨by decide, by simp [calls, site?], ?_, ?_⟩
  · exact congrArg StoreAnswer.rules (hput [] "a/b" "now" .standard rfl)
  · rw [hcalls]
    have hread := hput folder "a:b" "later" articleRules rfl
    rw [Folder.rulesOf?, ← hsame] at hread
    exact congrArg StoreAnswer.rules hread

end StoreCall

end PageBlocks
