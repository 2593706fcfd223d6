import GuardedTools.Command

/-!
# The program

The command line of the program.  What a command may look at is gathered into a value, the command
is answered, and the files that it has written are put where they belong.
-/

namespace GuardedTools

/-- The path of a place. -/
def Files.pathOf (place : Place) : String :=
  "/" ++ (Text.intercalate "/" place).toStringLossy

/-- What stands at a place in the world, if anything. -/
def Files.look (place : Place) : IO (Option FileNode) := do
  let path := (← IO.currentDir) / Files.pathOf place
  if ← path.isDir then return some .directory
  if ← path.pathExists then
    try return some (.file (← IO.FS.readBinFile path).toList)
    catch _ => return none
  return none

/-- Adds what stands at a place, and at the places on the way to it. -/
def Files.gather (fs : Files) (place : Place) : IO Files :=
  (List.range place.length).foldlM (fun fs n => do
    let place := place.take (n + 1)
    match fs.node? place, ← Files.look place with
    | none, some node => return fs.put place node
    | _, _ => return fs) fs

/-- The files that a command looks at. -/
def Files.ofWorld (paths : List Path) : IO Files := do
  let home := (Path.ofText (← IO.currentDir).toString).steps
  let places := paths.map fun p => if p.isAbsolute then p.steps else home ++ p.steps
  (home :: places).foldlM (fun fs place => fs.gather (Path.settle place))
    { nodes := [], home : Files }

/-- Writes the files that are not what they were before. -/
def Files.release (before after : Files) : IO Unit :=
  after.nodes.forM fun (place, node) => do
    if before.node? place != some node then
      match node with
      | .directory => IO.FS.createDirAll (Files.pathOf place)
      | .file bytes => IO.FS.writeBinFile (Files.pathOf place) ⟨bytes.toArray⟩

/-- The variables of the environment that settings are read from. -/
def Variables.ofWorld : IO Variables := do
  let names := Settings.fieldNames.map fun n =>
    (Settings.variablePrefix ++ n).map CodePoint.asciiUpper
  let found ← names.mapM fun n => do
    return (← IO.getEnv n.toStringLossy).map fun v => (n, Text.ofString v)
  return found.filterMap id

end GuardedTools

open GuardedTools in
/-- Runs the command of a line. -/
def main (words : List String) : IO UInt32 := do
  let words := words.map Text.ofString
  let paths := match Command.ofWords words with
    | .ok c => c.paths
    | .error _ => []
  let files ← Files.ofWorld (Path.ofText ".env" :: paths)
  let scene : CommandScene :=
    { files, modules := Sample.modules "", environment := ← Variables.ofWorld }
  let (after, e) := Command.run scene words
  files.release after
  (← IO.getStdout).putStr e.output.toStringLossy
  (← IO.getStderr).putStr e.errors.toStringLossy
  match e.crash? with
  | some message => IO.eprintln message.toStringLossy
  | none => pure ()
  return e.code.toUInt32
