import PageBlocks.Rule.Writer
import PageBlocks.Store.Load
import PageBlocks.Text.Letter
/-!
# The store of rule documents

The rule documents of sites are kept in a directory, one file for each site.  The name of the file
is that of the site, with low lines for characters that file names should not have.

## Main results

* `siteKey_safe` — keys hold no slashes.
* `Folder.rulesOf?_missing` — where there is no file there are no rules.
-/

namespace PageBlocks

open Text

/-- Is a character kept in the names of files? -/
def isKeyChar (c : Char) : Bool :=
  isAlphanumeric c || ['-', '_', '.'].contains c

/-- The name of a site as it is used for its file. -/
def siteKey (site : String) : String :=
  String.ofList (site.toList.map fun c => if isKeyChar c then c else '_')

theorem siteKey_safe (site : String) : '/' ∉ (siteKey site).toList := by
  simp only [siteKey, String.toList_ofList, List.mem_map, not_exists, not_and]
  intro c _ h
  split at h
  · next hk =>
    subst h
    exact absurd hk (by decide)
  · exact absurd h (by decide)

/-- The ending of the names of files with rules. -/
def rulesEnding : String := ".json"

/-- The path of the file of a site. -/
def sitePath (directory site : String) : String :=
  joinPath directory (siteKey site ++ rulesEnding)

/-- The greatest number of bytes in the name of a file. -/
def maxNameBytes : Nat := 255

/-- Is the name of a site short enough for the name of a file? -/
def isStorable (site : String) : Bool :=
  (Utf8.encode (siteKey site ++ rulesEnding).toList).length ≤ maxNameBytes

/-- Where rules are kept unless a directory is told. -/
def defaultDirectory : String := "import_rules"

/-- An entry of the store: the rules of a site, with what else is known about it. -/
def storedEntry (site updatedAt : String) (document : RuleDocument) (extra : Json) : Json :=
  .object [("key", .text (siteKey site)), ("site", .text site), ("updated_at", .text updatedAt),
    ("rules", document.toJson), ("extra_info", extra)]

namespace Folder

/-- The rules of a site, if there are any that can be loaded. -/
def rulesOf? (folder : Folder) (directory site : String) : Option RuleDocument :=
  (loadRules (folder.read? (sitePath directory site))).toOption

theorem rulesOf?_missing {folder : Folder} {directory site : String}
    (h : folder.read? (sitePath directory site) = none) :
    folder.rulesOf? directory site = none := by
  simp [rulesOf?, h, loadRules_missing, Except.toOption]

/-- Writes a JSON value into a file. -/
def writeJson (folder : Folder) (path : String) (value : Json) : Folder :=
  folder.write path (Utf8.encode value.render.toList)

/-- Keeps the rules of a site. -/
def putRules (folder : Folder) (directory site updatedAt : String) (document : RuleDocument)
    (extra : Json) : Folder :=
  folder.writeJson (sitePath directory site) (storedEntry site updatedAt document extra)

/-- The paths of all files with rules. -/
def rulePaths (folder : Folder) (directory : String) : List String :=
  folder.pathsIn directory rulesEnding

/-- Removes all files with rules. -/
def clearRules (folder : Folder) (directory : String) : Folder :=
  (folder.rulePaths directory).foldl remove folder

end Folder

/-! ## Summaries -/

/-- What an entry of the store is about. -/
structure Summary where
  key : Json
  site : Json
  updatedAt : Json
  /-- The types of its blocks. -/
  blocks : List Json
  path : String
deriving Repr

/-- Why the entries cannot be told. -/
inductive SummaryFault where
  /-- Something is no object that should be one. -/
  | noObject
  /-- The blocks of an entry are no list. -/
  | noList
deriving DecidableEq, Repr

/-- A field of an object, or what takes its place where it is left out. -/
def fieldOr (value : Json) (name : String) (fallback : Json) : Except SummaryFault Json :=
  match value with
  | .object fields => .ok ((Json.get? fields name).getD fallback)
  | _ => .error .noObject

/-- The types of blocks. -/
def blockTypes : Json → Except SummaryFault (List Json)
  | .list blocks => blocks.mapM fun block => fieldOr block "type" .null
  | .text content => if content = "" then .ok [] else .error .noObject
  | .object fields => if fields.isEmpty then .ok [] else .error .noObject
  | _ => .error .noList

/-- The summary of an entry. -/
def summarize (path : String) (entry : Json) : Except SummaryFault Summary := do
  let key ← fieldOr entry "key" .null
  let site ← fieldOr entry "site" .null
  let updatedAt ← fieldOr entry "updated_at" .null
  let rules ← fieldOr entry "rules" (.object [])
  let blocks ← fieldOr rules "blocks" (.list [])
  .ok ⟨key, site, updatedAt, ← blockTypes blocks, path⟩

/-- A summary as a JSON object. -/
def Summary.toJson (summary : Summary) : Json :=
  .object [("key", summary.key), ("site", summary.site), ("updated_at", summary.updatedAt),
    ("blocks", .list summary.blocks), ("file", .text summary.path)]

/-- The summaries of all entries that can be read, in the order of their files. -/
def Folder.summaries (folder : Folder) (directory : String) :
    Except SummaryFault (List Summary) :=
  (folder.rulePaths directory).foldlM (fun summaries path =>
    match readJsonFile (folder.read? path) with
    | .error _ => .ok summaries
    | .ok entry => (summarize path entry).map fun summary => summaries ++ [summary]) []

end PageBlocks
