import RustScribe.Project.Tree

namespace RustScribe.Release

/-! The packages of a project, found from the top down: a directory that is none
is not searched further. -/

open Project (Path Tree)

def packageMarker : String := "__init__.py"

/-- A package directory has a name without dots and holds the marker as a file. -/
def isPackageDirectory (tree : Tree) (directory : Path) : Bool :=
  match directory.getLast? with
  | none => false
  | some name => !name.toList.contains '.' && tree.isFile (directory ++ [packageMarker])

def subdirectories (tree : Tree) (directory : Path) : List Path :=
  tree.directories.filter fun path => path != [] && path.dropLast == directory

/-- The package directories below a directory, at most `depth` levels down. -/
def packagesBelow (tree : Tree) : Nat → Path → List Path
  | 0, _ => []
  | depth + 1, directory =>
      ((subdirectories tree directory).filter (isPackageDirectory tree)).flatMap fun found =>
        found :: packagesBelow tree depth found

def height (tree : Tree) : Nat :=
  (tree.entries.map fun entry => entry.1.length).foldl max 0

def dottedName (directory : Path) : String :=
  ".".intercalate directory

/-- Tests at the top, set-up leftovers and caches are not shipped. What lies below
one of them is judged by its own name. -/
def isShipped (package : String) : Bool :=
  !"tests".toList.isPrefixOf package.toList && package != "ez_setup" &&
    !"__pycache__".toList.isSuffixOf package.toList

/-- The names of all shipped packages, by code point. -/
def packages (tree : Tree) : List String :=
  (((packagesBelow tree (height tree) []).map dottedName).filter isShipped).mergeSort
    fun left right => decide (left ≤ right)

end RustScribe.Release
