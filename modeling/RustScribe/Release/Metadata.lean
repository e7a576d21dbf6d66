namespace RustScribe.Release

structure Metadata where
  name : String
  version : String
  description : String
  longDescription : String
  license : String
  requiredInterpreter : String
  classifiers : List String
  keywords : String
  packages : List String
  installRequires : List String
  extras : List (String × List String)
  deriving Repr, DecidableEq

/-- The metadata of the distribution; all but three entries are fixed. -/
def Metadata.ofProject (version longDescription : String) (packages : List String) : Metadata where
  name := "protobuf_codegen"
  version
  description := "Indentation-aware Rust source writer for protobuf code generators"
  longDescription
  license := "MIT"
  requiredInterpreter := ">=3.8"
  classifiers := [
    "Development Status :: 3 - Alpha",
    "Intended Audience :: Developers",
    "Topic :: Software Development :: Code Generators",
    "License :: OSI Approved :: MIT License",
    "Programming Language :: Python :: 3"]
  keywords := "protobuf rust codegen code generator writer"
  packages
  installRequires := []
  extras := [("tests", ["pytest"])]

end RustScribe.Release
