import RustScribe.Release.Fault
import RustScribe.Release.Metadata

namespace RustScribe.Release

/-! What a release run works on: the project, the working directory, and the
record of what was called and printed. -/

open Project (Path Entry Tree)

/-- A working directory: some place outside the project, or a path in it. -/
inductive Place where
  | outside
  | inside (path : Path)
  deriving Repr, DecidableEq

def Place.project : Place := .inside []

/-- A call of a tool, with the working directory it is made in. -/
inductive Call where
  | setup (metadata : Metadata) (place : Place)
  /-- A command, with the project as it finds it. -/
  | command (text : String) (place : Place) (tree : Tree)
  deriving Repr, DecidableEq

structure Workspace where
  tree : Tree
  place : Place
  calls : List Call := []
  printed : String := ""
  deriving Repr, DecidableEq

/-- A piece of work leaves a workspace behind, and a fault if it was broken off. -/
abbrev Task := Workspace → Workspace × Option Fault

namespace Task

def done : Task :=
  fun workspace => (workspace, none)

def andThen (first second : Task) : Task := fun workspace =>
  match first workspace with
  | (after, some fault) => (after, some fault)
  | (after, none) => second after

def sequence (tasks : List Task) : Task :=
  tasks.foldr andThen done

def fail (fault : Fault) : Task :=
  fun workspace => (workspace, some fault)

def print (text : String) : Task :=
  fun workspace => ({ workspace with printed := workspace.printed ++ text }, none)

def setup (metadata : Metadata) : Task := fun workspace =>
  ({ workspace with calls := workspace.calls ++ [.setup metadata workspace.place] }, none)

def command (text : String) (made : List (Path × Entry)) : Task := fun workspace =>
  ({ workspace with
      calls := workspace.calls ++ [.command text workspace.place workspace.tree]
      tree := workspace.tree.addAll made }, none)

def removeDirectories (paths : List Path) : Task :=
  fun workspace => ({ workspace with tree := workspace.tree.removeDirectories paths }, none)

/-- Makes a place the working directory. One that is gone is left alone; it counts as no
directory if it is or lies below a file, and else as missing. -/
def goTo (place : Place) : Task := fun workspace =>
  match place with
  | .outside => ({ workspace with place }, none)
  | .inside path =>
      if path.isEmpty || workspace.tree.isDirectory path then ({ workspace with place }, none)
      else if (path :: path.ancestors).any workspace.tree.isFile then
        (workspace, some (.notDirectory path))
      else (workspace, some (.missing path))

/-- Works in the project directory and goes back to where the work began, also
after a fault. Only a place that is no longer there cannot be gone back to. -/
def inProject (task : Task) : Task := fun workspace =>
  let (worked, fault) := task { workspace with place := .project }
  match goTo workspace.place worked with
  | (back, none) => (back, fault)
  | (stuck, some lost) => (stuck, some lost)

end Task

end RustScribe.Release
