import CallOrigin.CommandLine.Run

/-! # The program

What a run can look at is read into a file system beforehand, and the report that it leaves there
is written to disk afterwards. -/

namespace CallOrigin.CommandLine

open CallOrigin.File

/-- A path at which nothing is, for links that lead nowhere. -/
def nowhere : String := "/nowhere/nothing"

def observe (fs : FileSystem) (path : String) : IO FileSystem := do
  try
    let real ← IO.FS.realPath path
    match (← real.metadata).type with
    | .dir => return fs.createDirectory path
    | .file => return fs.create path (.file (← IO.FS.readBinFile real).toList)
    | _ => return fs
  catch _ => return fs

/-- Adds everything below a directory on disk. Links are not entered. -/
partial def observeBelow (fs : FileSystem) (path : String) : IO FileSystem := do
  let mut fs := fs
  let entries ← try (← IO.FS.realPath path).readDir catch _ => pure #[]
  for entry in entries do
    let here := joinPath path entry.fileName
    match (← entry.path.symlinkMetadata).type with
    | .dir => fs ← observeBelow (fs.createDirectory here) here
    | .symlink =>
      if ← entry.path.pathExists then
        let target := (← IO.FS.realPath entry.path).toString
        fs ← observe (fs.create here (.link target)) target
      else fs := fs.create here (.link nowhere)
    | _ => fs ← observe fs here
  return fs

def Options.observed (o : Options) : IO FileSystem := do
  let current := (← IO.currentDir).toString
  let fs := FileSystem.createDirectory ⟨[], []⟩ current
  let fs : FileSystem := { fs with current := (names current).filter (!·.isEmpty) }
  let fs ← observe fs o.root
  let fs ← observe fs ("/".intercalate (names o.reportPath).dropLast)
  let fs ← observe fs o.reportPath
  if fs.isDirectory o.root then observeBelow fs o.root else return fs

/-- Writes a report to disk: first beside its place, and then into it. -/
def writeToDisk (path : String) (content : List UInt8) : IO Unit := do
  let draft := path ++ ".part"
  IO.FS.writeBinFile draft content.toByteArray
  IO.FS.rename draft path

/-- Runs what the options ask for on the files on disk. -/
def Options.perform (o : Options) : IO UInt32 := do
  let before ← o.observed
  let outcome := o.run .standard before
  for event in outcome.log do
    IO.eprintln event.line
  match outcome.files.read o.reportPath with
  | .ok content =>
    if outcome.files != before then writeToDisk o.reportPath content
  | .error _ => pure ()
  IO.print outcome.output
  if let some failure := outcome.failure then
    IO.eprintln (failure.message o.reportPath)
  return UInt32.ofNat outcome.status

end CallOrigin.CommandLine

/-- Traces the calls of an API below a directory and writes a report of them. -/
def main (args : List String) : IO UInt32 := do
  match CallOrigin.CommandLine.Surroundings.standard.arguments args with
  | .ok options => options.perform
  | .error halt =>
    match halt with
    | .help => IO.println "Usage: api-trace [OPTIONS] ROOT"
    | .usage e => IO.eprintln ("Error: " ++ e.message)
    return UInt32.ofNat halt.status
