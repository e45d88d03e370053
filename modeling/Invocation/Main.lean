import Invocation.CommandLine.Run
import Std.Time.Zoned

/-!
# The program

Looks at the files that a request may need, runs the request, and writes what it prints.
-/

namespace Invocation

namespace CommandLine

/-- The environment of the program. -/
def readEnvironment : IO (OrderedMap Text Text) := do
  let bytes ← IO.FS.readBinFile "/proc/self/environ"
  let text := ((Utf8.decode bytes.toList).toOption).getD []
  return .ofList ((text.splitAll fun c => c = .scalar '\x00').filterMap (Text.cutAt (.scalar '=')))

def readProcess : IO Int := do
  let line ← IO.FS.readFile "/proc/self/stat"
  return ((line.takeWhile Char.isDigit).toNat?).getD 0

def readClock : IO LocalTime := do
  let now ← Std.Time.PlainDateTime.now
  let date : Date := ⟨now.date.year.toInt.toNat, now.date.month.val.toNat, now.date.day.val.toNat⟩
  return ⟨date, now.time.hour.val.toNat, now.time.minute.val.toNat, now.time.second.val.toNat,
    now.time.nanosecond.val.toNat / 1000⟩

/-- The number of cells in a line of the terminal. -/
def readColumns : IO Nat := do return (((← IO.getEnv "COLUMNS").bind String.toNat?)).getD 80

/-- The homes of the users. -/
def readUserHomes : IO (OrderedMap Text Text) := do
  let lines ← try IO.FS.lines "/etc/passwd" catch _ => pure #[]
  return .ofList (lines.toList.filterMap fun line =>
    match line.splitOn ":" with
    | [name, _, _, _, _, home, _] => some (.ofString name, .ofString home)
    | _ => none)

/-- The tree with what is found at a path and at the directories on the way to it. -/
def look (t : FileTree) (p : Path) : IO FileTree := do
  let here ← IO.currentDir
  let names := (t.current.join p).withoutDots.names
  let mut tree := t
  if (nameBytes p.text).toOption.isNone then return tree
  for count in [1:names.length + 1] do
    let place : Path := ⟨"/", names.take count⟩
    let file := here / (place.text.toString?).getD ""
    if ← file.isDir then tree := tree.insert place.names .directory
    else if ← file.pathExists then tree := tree.insert place.names (.file (← IO.FS.readBinFile file).toList)
  return tree

/-- What a request finds when it starts. -/
def surroundings (r : Request) : IO Surroundings := do
  let current : Path := .ofText (toString (← IO.currentDir) : String)
  let home : Text := ((← IO.getEnv "HOME").getD "/" : String)
  let environment ← readEnvironment
  let homes ← readUserHomes
  let mut files : FileTree := ⟨[], current⟩
  for p in r.specFiles do files ← look files p
  for p in r.variableFiles ⟨files, environment, home, homes⟩ do files ← look files p
  return ⟨⟨files, environment, home, homes⟩, ← readClock, ← readProcess, Terminal.console (← readColumns)⟩

def writeText (s : IO.FS.Stream) (t : Text) : IO Unit := do
  match Utf8.encode t with
  | .ok bytes => s.write ⟨bytes.toArray⟩
  | .error _ => return
  s.flush

/-- Runs the request that a command line makes, and says how it ended. -/
def execute (arguments : List String) : IO UInt32 := do
  match Request.ofArguments (arguments.map Text.ofString) with
  | .error f =>
    writeText (← IO.getStderr) ("Error: " ++ f.message ++ "\n")
    return 2
  | .ok r =>
    let e := r.run (← surroundings r)
    writeText (← IO.getStdout) e.output
    return UInt32.ofNat e.status

end CommandLine

end Invocation

def main (arguments : List String) : IO UInt32 := Invocation.CommandLine.execute arguments
