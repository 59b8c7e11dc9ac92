import TemplateFunctions.Program

/-!
The program itself: it looks at the files that a command line names, lets the command run on them,
and writes back what has changed.
-/

namespace TemplateFunctions

namespace Main

/-- What stands at a location of the disk. -/
def observe (place : Location) : IO (Option Node) := do
  let path := (← IO.currentDir) / String.ofList (FileSystem.pathOf place)
  if ← path.isDir then
    return some .directory
  if ← path.pathExists then
    match String.fromUTF8? (← IO.FS.readBinFile path) with
    | some content => return some (.text content.toList)
    | none => return some .binary
  return none

/-- The part of the disk that paths lead through. -/
def survey (cwd : Location) (paths : List Path) : IO FileSystem := do
  let places := paths.flatMap fun p =>
    FileSystem.trail (FileSystem.origin cwd p) (Path.parts p)
  places.foldlM (fun fs place => do
    match ← observe place with
    | some node => pure (fs.put place node)
    | none => pure fs) ⟨[]⟩

/-- Writes the files that have changed. -/
def save (before after : FileSystem) : IO Unit := do
  for (place, node) in after.entries do
    if before.node? place ≠ some node then
      match node with
      | .text content =>
        IO.FS.writeFile (String.ofList (FileSystem.pathOf place)) (String.ofList content)
      | _ => pure ()

/-- Prints an outcome. -/
def print (o : Outcome) : IO UInt32 := do
  IO.eprint (String.ofList o.notices)
  IO.print (String.ofList o.stdout)
  (← IO.getStdout).flush
  IO.eprint (String.ofList ((o.failure.map Failure.report).getD []))
  return o.exit.toUInt32

/-- Runs an invocation on the disk. -/
def perform (i : CommandLine.Invocation) : IO UInt32 := do
  let cwd := (Path.parts (toString (← IO.currentDir)).toList).filter fun part =>
    !Path.isIdle part
  let before ← survey cwd (Program.paths cwd i)
  let o := Program.run before cwd i
  save before o.files
  print o

/-- Answers a command line. -/
def answer (words : List Text) : IO UInt32 := do
  match CommandLine.Request.ofWords words with
  | .run i => perform i
  | .version =>
    IO.print (String.ofList Program.versionLine)
    return 0
  | .misuse =>
    IO.eprintln "Usage: bladefn [-v] [-c FILE] (compile | check | extract | init) ..."
    return 2

end Main

end TemplateFunctions

/-- Answers the words behind the name of the program. -/
def main (args : List String) : IO UInt32 :=
  TemplateFunctions.Main.answer (args.map String.toList)
