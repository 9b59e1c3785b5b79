import MessageContracts.Command
import MessageContracts.Trace.Setting

/-!
# The program

The program reads the files that its task may need, lets the task decide, and then writes what the
task wrote. A file that turns out not to be creatable is decided upon again.
-/

namespace MessageContracts

/-- The paths that a task may read. -/
def Task.paths : Task → List String
  | generate model manifest _ => [model, manifest.getD Manifest.stockPath]
  | check manifest => [manifest.getD Manifest.stockPath]
  | defaults => []

/-- What some paths lead to at present. -/
def Disk.snapshot (paths : List String) : IO Disk := do
  let contents ← paths.filterMapM fun (path : String) => do
    try return some (path, ← IO.FS.readBinFile path)
    catch _ => return none
  let present ← paths.filterM fun (path : String) => do
    try
      let _ ← IO.FS.realPath path
      return true
    catch _ => return false
  return ⟨(contents.lookup ·), present.contains, fun _ => some .file⟩

/-- Perform a task for real. -/
def Task.run (task : Task) : IO Outcome := do
  let disk ← Disk.snapshot task.paths
  let outcome := task.perform disk
  match outcome.written with
  | none => return outcome
  | some (path, content) =>
    try
      IO.FS.writeBinFile path content
      return outcome
    catch _ => return task.perform { disk with destination? := fun _ => none }

/-- How the program is called. -/
def usageText : String :=
  "Usage: codedsl [-v] generate -m MODEL [-c MANIFEST] [-o OUTPUT]\n" ++
  "       codedsl [-v] check [-c MANIFEST]\n" ++
  "       codedsl [-v] defaults\n"

/-- Show how a task went. -/
def Outcome.report (outcome : Outcome) (filter : TraceFilter) : IO UInt32 := do
  for entry in outcome.trace.filter filter.admits do
    IO.eprintln entry.line
  let output ← IO.getStdout
  output.write outcome.printed
  output.flush
  if let some error := outcome.failure then
    IO.eprintln ("Error: " ++ error.message)
  return outcome.exitCode.toUInt32

end MessageContracts

open MessageContracts in
/-- Run the program on its arguments. -/
def main (arguments : List String) : IO UInt32 := do
  match Invocation.ofArguments arguments with
  | .error .version =>
    IO.print versionText
    return 0
  | .error .help =>
    IO.print usageText
    return 0
  | .error .misuse =>
    IO.eprint usageText
    return 2
  | .ok invocation =>
    match TraceFilter.ofSetting? (← IO.getEnv "RUST_LOG") invocation.verbose with
    | some filter => (← invocation.task.run).report filter
    | none => return TraceFilter.stopCode.toUInt32
