import RustScribe.Release.Workspace
import RustScribe.Release.Packages
import RustScribe.Release.VersionLine

namespace RustScribe.Release

/-! The two runs of the release tool: handing the metadata to the setup call, and
publishing freshly built artefacts. -/

open Project (Path Entry Tree)

def readmePath : Path := ["README.rst"]

def libraryDirectory : String := "protobuf_codegen"

def versionPath : Path := [libraryDirectory, "version.py"]

def cacheName : String := "__pycache__"

def artefacts : List Path :=
  [["build"], ["dist"], [libraryDirectory ++ ".egg-info"]]

def readVersion (tree : Tree) : Except Fault String :=
  match readText tree versionPath with
  | .error fault => .error fault
  | .ok chars =>
      match findVersion chars with
      | none => .error .unversioned
      | some value => .ok (String.ofList value)

/-- The metadata of a project; the readme is read before the version. -/
def readMetadata (tree : Tree) : Except Fault Metadata :=
  match readText tree readmePath with
  | .error fault => .error fault
  | .ok readme =>
      match readVersion tree with
      | .error fault => .error fault
      | .ok version => .ok (.ofProject version (String.ofList readme) (packages tree))

def setupTask : Task := fun workspace =>
  match readMetadata workspace.tree with
  | .error fault => Task.fail fault workspace
  | .ok metadata => Task.setup metadata workspace

/-- The caches below the library directory, wherever they lie. -/
def libraryCaches (tree : Tree) : List Path :=
  tree.directories.filter fun path =>
    path.head? == some libraryDirectory && path.tail.getLast? == some cacheName

def staleDirectories (tree : Tree) : List Path :=
  [cacheName] :: artefacts ++ libraryCaches tree

def publishCommands : List String :=
  ["python3 setup.py sdist", "python3 setup.py bdist_wheel", "twine upload dist/*"]

/-- How the tool was called, and what its surroundings do. -/
structure Invocation where
  arguments : List String
  /-- Whether it runs as a program, and not to be read by another. -/
  asProgram : Bool := true
  importable : Bool := true
  start : Place := .outside
  /-- The files that each command makes. -/
  makes : List (String × List (Path × Entry)) := []
  deriving Repr, DecidableEq

namespace Invocation

def made (invocation : Invocation) (command : String) : List (Path × Entry) :=
  (invocation.makes.lookup command).getD []

/-- Removes what is stale, builds and uploads, and removes what was built. -/
def publish (invocation : Invocation) : Task := fun workspace =>
  Task.sequence
    ([Task.removeDirectories (staleDirectories workspace.tree)] ++
      publishCommands.map (fun text => Task.command text (invocation.made text)) ++
      [Task.removeDirectories artefacts])
    workspace

/-- The first argument after the tool's own name asks for publishing. -/
def publishes (invocation : Invocation) : Bool :=
  invocation.arguments[1]? == some "pypi"

def task (invocation : Invocation) : Task :=
  if invocation.publishes then
    if invocation.importable then invocation.publish
    else Task.print "Packaging for PyPi aborted, importing the module failed.\n"
  else setupTask

/-- The workspace at the start; the working directory is there from the beginning. -/
def workspace (invocation : Invocation) (tree : Tree) : Workspace where
  tree :=
    match invocation.start with
    | .outside => tree
    | .inside [] => tree
    | .inside path => if tree.isDirectory path then tree else tree.add path .directory
  place := invocation.start

def run (invocation : Invocation) (tree : Tree) : Workspace × Option Fault :=
  let start := invocation.workspace tree
  if invocation.asProgram then Task.inProject invocation.task start else Task.done start

end Invocation

end RustScribe.Release
