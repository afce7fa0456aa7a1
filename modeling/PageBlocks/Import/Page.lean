import PageBlocks.Charset.Basic
import PageBlocks.Import.Run
/-!
# Imported pages

An imported page is the element with its content, and the path that it goes to.  A page may come
from a file, whose bytes are read in the character set that they declare; its path is then that of
the file, unless an address is told.
-/

namespace PageBlocks.Import

open PageBlocks.Text

/-- Why a page cannot be imported. -/
inductive Fault where
  | block (fault : BlockFault)
  | address (fault : Url.Fault)
  | charset (fault : Charset.Fault)
deriving DecidableEq, Repr

/-- The wording of a fault. -/
def Fault.message : Fault → String
  | block fault => fault.message
  | address fault => fault.message
  | charset fault => fault.message

/-- A page after its import. -/
structure Imported where
  page : Dom
  root : NodeId
  path : List Char

/-- The markup of the content. -/
def Imported.markup (imported : Imported) : String :=
  ((imported.page.find? imported.root).map Node.markup).getD ""

/-- How many tables the content holds. -/
def Imported.tableCount (imported : Imported) : Nat :=
  (((imported.page.find? imported.root).map Node.elements).getD []).countP fun node =>
    node.name = "table"

/-- Imports a page with an address. -/
def importPage (host : Host) (document : RuleDocument) (params : Params) (address : String)
    (page : Dom) : Except Fault Imported :=
  match run host document params page with
  | (.error fault, _) => .error (.block fault)
  | (.ok (root, _), page) =>
    match Url.rawDocumentPath address.toList with
    | .error fault => .error (.address fault)
    | .ok path => .ok ⟨page, root, host.cleanPath path⟩

/-- Characters that stand for themselves in the address of a file. -/
def isFileAddressChar (c : Char) : Bool :=
  isAsciiLetter c || isAsciiDigit c || ['_', '.', '-', '~', '/'].contains c

/-- The address of a file with an absolute path. -/
def fileAddress (path : String) : String :=
  "file://" ++ String.ofList (Url.escape isFileAddressChar path.toList)

/-- The address that is told, or else that of a file. -/
def addressOr (told path : String) : String :=
  if told.isEmpty then fileAddress path else told

/-- Imports a page from the bytes of a file with an absolute path. -/
def importFile (host : Host) (reader : PageReader) (document : RuleDocument) (params : Params)
    (told path : String) (bytes : List UInt8) : Except Fault Imported :=
  match Charset.decodePage bytes with
  | .error fault => .error (.charset fault)
  | .ok markup =>
    importPage host document params (addressOr told path)
      (.readBy reader (String.ofList markup))

end PageBlocks.Import
