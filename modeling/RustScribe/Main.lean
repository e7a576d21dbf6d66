import RustScribe.Release.Run

namespace RustScribe

/-! The release tool on the command line. It reads the project in the current
directory and tells what a release run calls, prints and leaves behind, in that
order; it carries none of it out. -/

open Project (Path Entry)

/-- Every file and directory below a path of the current directory. -/
partial def readBelow (path : Path) : IO (List (Path × Entry)) := do
  let directory := (← IO.currentDir) / path.render
  let mut found : List (Path × Entry) := []
  for entry in ← directory.readDir do
    let inner := path ++ [entry.fileName]
    if ← entry.path.isDir then
      found := found ++ (inner, .directory) :: (← readBelow inner)
    else
      found := found ++ [(inner, .file (← IO.FS.readBinFile entry.path).toList)]
  return found

def describeCall : Release.Call → String
  | .setup metadata _ =>
      "setup " ++ metadata.name ++ " " ++ metadata.version ++ ": " ++
        ", ".intercalate metadata.packages
  | .command text _ _ => "run " ++ text

end RustScribe

open RustScribe in
def main (arguments : List String) : IO UInt32 := do
  let tree := Project.Tree.ofFiles (← readBelow [])
  let invocation : Release.Invocation := { arguments := "setup" :: arguments, start := .project }
  let (workspace, fault) := invocation.run tree
  for call in workspace.calls do
    IO.println (describeCall call)
  IO.print workspace.printed
  for name in (tree.listing.filter fun name => !workspace.tree.listing.contains name) do
    IO.println ("remove " ++ name)
  match fault with
  | none => return 0
  | some fault =>
      IO.eprintln fault.message
      return 1
