import RustScribe.Project.Tree
import RustScribe.Text.Newline
import RustScribe.Text.Quoted
import RustScribe.Text.Utf8

namespace RustScribe.Release

open Project (Path Tree)

inductive Fault where
  | missing (path : Path)
  | notDirectory (path : Path)
  | isDirectory (path : Path)
  | malformed (bad : Text.Utf8.Malformed)
  | unversioned
  deriving Repr, DecidableEq

def Fault.message : Fault → String
  | .missing path => "[Errno 2] No such file or directory: " ++ Text.quoted path.render
  | .notDirectory path => "[Errno 20] Not a directory: " ++ Text.quoted path.render
  | .isDirectory path => "[Errno 21] Is a directory: " ++ Text.quoted path.render
  | .malformed bad => bad.message
  | .unversioned => "'NoneType' object has no attribute 'group'"

/-- The text of a file, with line feeds for all its line ends. -/
def readText (tree : Tree) (path : Path) : Except Fault (List Char) :=
  match tree.get? path with
  | some (.file bytes) =>
      match Text.Utf8.decode bytes with
      | .ok chars => .ok (Text.unifyNewlines chars)
      | .error bad => .error (.malformed bad)
  | some .directory => .error (.isDirectory path)
  | none => .error (if path.ancestors.any tree.isFile then .notDirectory path else .missing path)

end RustScribe.Release
