import Rebuild.Command.Footprint
import Rebuild.Log.Timestamp
import Std.Time.DateTime.Timestamp

/-!
# The command line

What a run may look at is read from the disk first. The run itself is a value, and what it says is
printed once it is there.
-/

namespace Rebuild.CommandLine

/-- Adds what the disk has at a place, and says whether there is something. A file that cannot be
read counts as missing. -/
def readPlace (files : FileSystem) (place : Place) : IO (FileSystem × Bool) := do
  let path := System.mkFilePath [(FileSystem.absolutePath place).shown]
  if ← path.isDir then return (files.put place .directory, true)
  try
    let content ← IO.FS.readBinFile path
    return (files.putFile place content, true)
  catch _ => return (files, false)

/-- Reads what lies on the way of the segments, as far as it is there. -/
def readSegments (files : FileSystem) (place : Place) : List (List Utf8.Piece) → IO FileSystem
  | [] => return files
  | segment :: segments => do
    if segment = [] || segment = [Path.dot] then readSegments files place segments
    else if segment = [Path.dot, Path.dot] then readSegments files place.dropLast segments
    else
      let next := place ++ [segment]
      let (files, isThere) ← readPlace files next
      if isThere then readSegments files next segments else return files

def readPath (files : FileSystem) (path : Path) : IO FileSystem :=
  if (FileSystem.refusal? path).isSome then return files
  else readSegments files (files.start path) path.segments

def readPaths (files : FileSystem) (paths : List Path) : IO FileSystem :=
  paths.foldlM readPath files

/-- The part of the disk that a run looks at. -/
def survey (invocation : Invocation) (environment : Environment) : IO FileSystem := do
  let directory := Path.ofString (← IO.currentDir).toString
  let files := FileSystem.empty directory.names
  let files ← readPaths files (invocation.configPaths environment directory)
  let files ← readPaths files (invocation.logPath? environment files).toList
  let files ← readPaths files invocation.command.paths
  readPaths files (invocation.command.classPaths files)

/-- Adds what a run logs to its log file, which comes to be if it is not there. -/
def writeLog (result : RunResult) : IO Unit := do
  if let some setup := result.setup then
    if let some place := setup.file then
      let log ← IO.FS.Handle.mk (FileSystem.absolutePath place).shown .append
      log.putStr result.logged

def perform (invocation : Invocation) : IO UInt32 := do
  let environment : Environment :=
    ⟨← IO.getEnv "JARGUARD_CONFIG_PATH", ← IO.getEnv "RUST_LOG"⟩
  let files ← survey invocation environment
  let now ← Std.Time.Timestamp.now
  let time := timestamp (now.toNanosecondsSinceUnixEpoch.val.toNat / 1000)
  let result := invocation.run environment time files
  writeLog result
  IO.eprint result.errorOutput
  IO.print result.output
  return result.exitCode.toUInt32

end Rebuild.CommandLine

open Rebuild in
def main (arguments : List String) : IO UInt32 := do
  match Arguments.parse arguments with
  | .ok invocation => CommandLine.perform invocation
  | .error stop =>
    if stop = .misuse then IO.eprint (Arguments.answer stop) else IO.print (Arguments.answer stop)
    return stop.exitCode.toUInt32
