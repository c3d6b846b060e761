/-
**The program.**

The rim around `CodeBlocks.CommandLine.Request.runOn`: it looks at the files that a request names,
runs the request on the tree of what it saw, and then does to the files what the run did to the
tree.  There is no manual in it.
-/
import CodeBlocks.CommandLine.Session
import CodeBlocks.Writer.Script

set_option relaxedAutoImplicit false
set_option autoImplicit false

namespace CodeBlocks.CommandLine

def Request.paths : Request → List Path
  | .render config order => (config :: order.output.toList).map Path.ofText
  | .check config => [.ofText config]
  | _ => []

/-- The paths on the way along a path, the shortest first. -/
def stagesOf (path : Path) : List Path :=
  (List.range path.parts.length).map fun count => ⟨path.rooted, path.parts.take (count + 1)⟩

def look (path : Path) : IO (Option FileEntry) := do
  try
    return some (.file (← IO.FS.readBinFile path.text))
  catch
    | .noFileOrDirectory _ _ _ => return none
    | .noSuchThing _ _ _ => return none
    | _ => return some .directory

/-- The tree with what stands on the way along a path. -/
def observe (tree : FileTree) (path : Path) : IO FileTree := do
  let mut seen := tree
  for stage in stagesOf path do
    if let .ok place := seen.resolve stage then
      if (seen.entry place).isNone then
        if let some held ← look stage then
          seen := seen.set place held
  return seen

/-- The tree with the working directory and nothing else. -/
def workplace : IO FileTree := do
  let here := Path.ofText (← IO.currentDir).toString
  let place := (here.parts.filter (· ≠ [])).reverse.map String.ofList
  let around := (List.range place.length).map fun count => place.drop count
  let tree := around.foldl (fun tree outer => FileTree.set tree outer .directory) FileTree.empty
  return { tree with workingDirectory := place }

/-- Do to the disk what was done to a tree along a path. -/
def perform (before after : FileTree) (path : Path) : IO Unit := do
  for stage in stagesOf path do
    if let .ok place := after.resolve stage then
      match before.entry place, after.entry place with
      | none, some .directory => IO.FS.createDir stage.text
      | none, some (.file content) => IO.FS.writeBinFile stage.text content
      | some (.file old), some (.file content) =>
        if old != content then IO.FS.writeBinFile stage.text content
      | _, _ => pure ()

def refusalOf : IO.Error → { fault : IoFault // fault ≠ .interrupted }
  | .resourceVanished _ _ => ⟨.brokenPipe, by decide⟩
  | _ => ⟨.other "output", by simp⟩

/-- Do a request, and write what it says.  If that cannot be written, the request ends as it does
with a writer that takes nothing. -/
def Request.carryOut (host : Host) (request : Request) : IO Ending := do
  let before ← request.paths.foldlM observe (← workplace)
  let done := request.runOn host .collecting ByteArray.empty before
  for path in request.paths do
    perform before done.tree path
  let errors ← IO.getStderr
  errors.putStr done.errors
  if let some words := done.fault?.bind RunFault.message? then
    errors.putStrLn words
  try
    (← IO.getStdout).write done.output
    (← IO.getStdout).flush
    return done.ending
  catch error =>
    let refusing : WriterScript := { limit := some 0, failure := some (refusalOf error) }
    return (request.runOn host refusing.writer {} before).ending

end CodeBlocks.CommandLine

open CodeBlocks.CommandLine in
/-- The program: its arguments make a request, and the ending gives the exit code. -/
def main (arguments : List String) : IO UInt32 := do
  let ending ← match Request.ofArguments arguments with
    | .ok request => request.carryOut .usual
    | .error fault => pure (RunFault.misused fault).ending
  return ending.exitCode.toUInt32
