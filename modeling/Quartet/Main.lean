import Quartet.Program

/-!
# The executable

The program runs on a copy of the part of the disk that its arguments name, and what it
changed is written back.

* `main` — reads the environment, runs the program and writes its outcome.
-/

namespace Quartet.Executable

/-- The paths that a command reads, and those that it writes. -/
def pathsOf : Request → List String × List String
  | .run (.assemble input output log) => ([input], [output, log])
  | .run (.interpret binary result _ _) => ([binary], [result])
  | .help | .misuse => ([], [])

/-- The path from the root to a place. -/
def absolute (location : Location) : String := "/" ++ "/".intercalate location.reverse

/-- The places that the parts of a path lead through, the last one included. -/
def visited (home : Location) (path : String) : List Location :=
  let start := if Disk.isRooted path then [] else home
  ((Disk.parts path).foldl
    (fun (here, places) part =>
      let there := Disk.next here part
      (there, places ++ [there]))
    (start, [])).2

/-- The entry at a place.  What is no ordinary file has content only if it is to be read. -/
def loadNode (location : Location) (isRead : Bool) : IO (Option Node) := do
  let path := absolute location
  if path = "/dev/full" then return some .full
  if path = "/dev/null" then return some .null
  let found := (← IO.currentDir) / path
  if !(← found.pathExists) then return none
  match (← found.metadata).type with
  | .dir => return some .directory
  | .file => return some (.file (← IO.FS.readBinFile path))
  | _ => return some (.file (← if isRead then IO.FS.readBinFile path else pure ByteArray.empty))

/-- The part of the disk that paths name. -/
def load (read written : List String) : IO Disk := do
  let home := ((Disk.parts (← IO.currentDir).toString).filter Disk.isName).reverse
  let mut disk : Disk := ⟨home, []⟩
  for (path, isRead) in read.map (·, true) ++ written.map (·, false) do
    for location in visited home path do
      if (disk.node? location).isNone then
        if let some node ← loadNode location isRead then
          disk := disk.put location node
  return disk

/-- Writes back the files that differ. -/
def save (before after : Disk) : IO Unit := do
  for (location, node) in after.entries do
    if before.node? location ≠ some node then
      if let .file content := node then
        IO.FS.writeBinFile (absolute location) content

end Quartet.Executable

open Quartet Quartet.Executable in
/-- Runs the program on the arguments given. -/
def main (arguments : List String) : IO UInt32 := do
  let setting ← IO.getEnv "RUST_LOG"
  let (read, written) := pathsOf (Request.ofArguments arguments)
  let before ← load read written
  let outcome := Program.run setting arguments before
  save before outcome.disk
  (← IO.getStdout).putStr outcome.stdout
  (← IO.getStderr).putStr outcome.stderr
  return outcome.status.toUInt32
