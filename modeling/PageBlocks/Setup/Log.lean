import PageBlocks.Setup.Settings
import PageBlocks.Text.Quoted
/-!
# Logs

A log has handlers that take its records: the standard output, and any number of files.  Setting it
up again changes the level of all handlers, and adds a file only once, however its path is written.
Files are made directly in the directory of the log, where there are no other directories.

## Main results

* `Log.setUp_level` — the level is the one that was set last.
* `Log.setUp_handlers_level` — all handlers have the level of the log.
-/

namespace PageBlocks

open Text

/-- Where records go. -/
inductive LogTarget where
  | output
  | file (path : String)
deriving DecidableEq, Repr

/-- A place for records, and how grave they have to be. -/
structure LogHandler where
  target : LogTarget
  level : LogLevel
deriving DecidableEq, Repr

/-- A log, with its handlers in the order in which they were added. -/
structure Log where
  level : LogLevel
  handlers : List LogHandler
deriving DecidableEq, Repr

/-- Why a file cannot take records. -/
inductive LogFault where
  /-- The directory of the file is not there. -/
  | noDirectory (path : String)
  /-- The path is that of a directory. -/
  | directory
  /-- The path goes on after the name of a file. -/
  | behindFile
deriving DecidableEq, Repr

/-- The wording of a fault. -/
def LogFault.message : LogFault → String
  | noDirectory path =>
    "[Errno 2] No such file or directory: " ++ String.ofList (quoted path.toList)
  | directory => "[Errno 21] Is a directory"
  | behindFile => "[Errno 20] Not a directory"

/-- The segments of a path, where a segment of two dots takes the one before it away. -/
def resolvedSegments (path : List Char) : List (List Char) :=
  (splitOn ['/'] path).foldl (fun segments segment =>
    if segment = [] || segment = ['.'] then segments
    else if segment = ['.', '.'] then
      (match segments.getLast? with
        | none => [segment]
        | some last => if last = segment then segments ++ [segment] else segments.dropLast)
    else segments ++ [segment]) []

/-- The one way to write a path. -/
def resolvedPath (path : String) : String :=
  String.ofList ((if path.toList.head? = some '/' then ['/'] else []) ++
    joinWith ['/'] (resolvedSegments path.toList))

namespace Log

/-- A log without handlers. -/
def empty : Log := ⟨0, []⟩

/-- Adds a place for records, unless it is there already. -/
def add (log : Log) (target : LogTarget) : Log :=
  if log.handlers.any (·.target = target) then log
  else { log with handlers := log.handlers ++ [⟨target, log.level⟩] }

/-- Does a log have a file with the path that has these segments? -/
def hasFile (log : Log) (segments : List (List Char)) : Bool :=
  log.handlers.any fun handler =>
    match handler.target with
    | .output => false
    | .file path => resolvedSegments path.toList = segments

/-- Why a file cannot be opened, if it cannot. -/
def fileFault? (log : Log) (path : String) : Option LogFault :=
  match (resolvedSegments path.toList).dropWhile (· = ['.', '.']) with
  | [] => some .directory
  | [_] => none
  | first :: _ =>
    if path.toList.head? = some '/' then none
    else if log.hasFile [first] then some .behindFile
    else some (.noDirectory path)

/-- Adds a file to a log, unless it is there already. -/
def openFile (log : Log) (path : String) : Except LogFault Log :=
  let target := LogTarget.file (resolvedPath path)
  if log.handlers.any (·.target = target) then .ok log
  else match log.fileFault? (resolvedPath path) with
    | some fault => .error fault
    | none => .ok (log.add target)

/-- A log all of whose handlers have its level. -/
def spreadLevel (log : Log) : Log :=
  { log with handlers := log.handlers.map fun handler => { handler with level := log.level } }

/-- Sets up a log with a level and, perhaps, a file. -/
def setUp (log : Log) (level : LogLevel) (file : Option String) : Except LogFault Log := do
  let log := { log with level := level }.add .output
  match file.filter (!·.isEmpty) with
  | none => .ok log.spreadLevel
  | some path => (log.openFile path).map spreadLevel

theorem add_level (log : Log) (target : LogTarget) : (log.add target).level = log.level := by
  unfold add
  split <;> rfl

theorem openFile_level {log opened : Log} {path : String} (h : log.openFile path = .ok opened) :
    opened.level = log.level := by
  simp only [openFile] at h
  split at h
  · cases h; rfl
  · split at h
    · cases h
    · cases h
      exact add_level log _

theorem setUp_level {log after : Log} {level : LogLevel} {file : Option String}
    (h : log.setUp level file = .ok after) : after.level = level := by
  simp only [setUp] at h
  split at h
  · cases h
    exact add_level _ _
  · next path _ =>
    cases ho : Log.openFile ({ log with level := level }.add .output) path with
    | error fault => simp [ho, Except.map] at h
    | ok opened =>
      simp only [ho, Except.map, Except.ok.injEq] at h
      subst h
      exact (openFile_level ho).trans (add_level _ _)

theorem setUp_spread {log after : Log} {level : LogLevel} {file : Option String}
    (h : log.setUp level file = .ok after) : ∃ other : Log, after = other.spreadLevel := by
  simp only [setUp] at h
  split at h
  · cases h
    exact ⟨_, rfl⟩
  · next path _ =>
    cases ho : Log.openFile ({ log with level := level }.add .output) path with
    | error fault => simp [ho, Except.map] at h
    | ok opened =>
      simp only [ho, Except.map, Except.ok.injEq] at h
      exact ⟨opened, h.symm⟩

theorem setUp_handlers_level {log after : Log} {level : LogLevel} {file : Option String}
    {handler : LogHandler} (h : log.setUp level file = .ok after) (hm : handler ∈ after.handlers) :
    handler.level = level := by
  obtain ⟨other, rfl⟩ := setUp_spread h
  rw [← setUp_level h]
  simp only [spreadLevel, List.mem_map] at hm ⊢
  obtain ⟨_, _, rfl⟩ := hm
  rfl

end Log

end PageBlocks
