import Coverage.FileFault
import Coverage.Json.Error
import Coverage.SourceMap.Error
import Coverage.Table
import Coverage.Text.Utf8

/-!
# What can go wrong

Each cause is a constructor of its own; the wording is in `Error.message`, and `Error.kind` sorts
the causes into the groups that callers tell apart.
-/

namespace Coverage

/-- The three numbered groups of a file's coverage. -/
inductive Group where
  | statements
  | functions
  | branches
  deriving DecidableEq, Inhabited, Repr

/-- Why a program is refused. -/
inductive SyntaxFault where
  /-- The text up to twenty characters that no statement can hold. -/
  | unexpected (text : String)
  | missing (token : String)
  | returnOutsideFunction
  | moduleOnly
  deriving DecidableEq, Inhabited, Repr

/-- The message of a syntax fault. -/
def SyntaxFault.message : SyntaxFault → String
  | .unexpected text => "unexpected `" ++ text ++ "`"
  | .missing token => "missing `" ++ token ++ "`"
  | .returnOutsideFunction => "'return' outside of function"
  | .moduleOnly => "'import' and 'export' may only appear in modules"

/-- What can go wrong. -/
inductive Error where
  | file (fault : FileFault)
  | json (cause : Json.Error)
  /-- A file's coverage names no file. -/
  | emptyPath
  /-- The ids of a group and those of its counters differ. -/
  | idsDiffer (path : String) (group : Group)
  /-- A branch has a number of counts that is not its number of outcomes. -/
  | outcomesDiffer (path : String) (branch : Id) (counts locations : Nat)
  /-- A document lists a file's coverage under another path. -/
  | keyDiffers (key path : String)
  | rootHasNoParent
  | unknownLayout (name : String)
  | notUtf8 (path : String) (cause : Text.Utf8Error)
  | noStatement (path : String) (id : Id)
  | noFunction (path : String) (id : Id)
  | noOutcome (path : String) (branch : Id) (outcome : Nat)
  /-- A coverage document on disk cannot be used. -/
  | inDocument (path : String) (cause : Error)
  | badSyntax (path : String) (line column : UInt32) (fault : SyntaxFault)
  | notFound (path : String)
  | pathsDiffer (expected found : String)
  | branchShapesDiffer (path : String) (branch : Id) (expected found : Nat)
  | sourceMap (cause : SourceMap.Error)
  deriving Inhabited, Repr

/-- The groups of causes that callers tell apart. -/
inductive ErrorKind where
  | io
  | json
  | invalidInput
  | badSyntax
  | notFound
  | pathMismatch
  | branchShapeMismatch
  | sourceMap
  deriving DecidableEq, Inhabited, Repr

namespace Error

/-- The group of a cause. -/
def kind : Error → ErrorKind
  | .file _ => .io
  | .json _ => .json
  | .emptyPath | .idsDiffer .. | .outcomesDiffer .. | .keyDiffers .. | .rootHasNoParent
  | .unknownLayout _ | .notUtf8 .. | .noStatement .. | .noFunction .. | .noOutcome ..
  | .inDocument .. => .invalidInput
  | .badSyntax .. => .badSyntax
  | .notFound _ => .notFound
  | .pathsDiffer .. => .pathMismatch
  | .branchShapesDiffer .. => .branchShapeMismatch
  | .sourceMap _ => .sourceMap

/-- How a message names the ids of a group and those of its counters. -/
def idsText : Group → String
  | .statements => "statement ids in `s` and `statementMap` differ"
  | .functions => "function ids in `f` and `fnMap` differ"
  | .branches => "branch ids in `b` and `branchMap` differ"

/-- The message of an error. -/
def message : Error → String
  | .file fault => "I/O error: " ++ fault.message
  | .json cause => "JSON error: " ++ cause.message
  | .emptyPath => "Invalid input: file coverage is missing a path"
  | .idsDiffer path group => "Invalid input: " ++ path ++ ": " ++ idsText group
  | .outcomesDiffer path branch counts locations =>
    "Invalid input: " ++ path ++ ": branch " ++ toString branch.toNat ++ " has " ++
      toString counts ++ " counts for " ++ toString locations ++ " locations"
  | .keyDiffers key path =>
    "Invalid input: coverage keyed by '" ++ key ++ "' describes '" ++ path ++ "'"
  | .rootHasNoParent => "Invalid input: the root path has no parent"
  | .unknownLayout name =>
    "Invalid input: Unknown summarizer: '" ++ name ++ "'. Supported: flat, pkg, nested"
  | .notUtf8 path cause =>
    "Invalid input: " ++ path ++ ": source is not valid UTF-8: " ++ cause.message
  | .noStatement path id => "Invalid input: " ++ path ++ ": no statement " ++ toString id.toNat
  | .noFunction path id => "Invalid input: " ++ path ++ ": no function " ++ toString id.toNat
  | .noOutcome path branch outcome =>
    "Invalid input: " ++ path ++ ": no outcome " ++ toString outcome ++ " for branch " ++
      toString branch.toNat
  | .inDocument path cause => "Invalid input: " ++ path ++ ": " ++ cause.message
  | .badSyntax path line column fault =>
    "Syntax error in " ++ path ++ " at line " ++ toString line.toNat ++ ", column " ++
      toString column.toNat ++ ": " ++ fault.message
  | .notFound path => "File coverage not found: " ++ path
  | .pathsDiffer expected found =>
    "Cannot merge coverage for '" ++ found ++ "' into coverage for '" ++ expected ++ "'"
  | .branchShapesDiffer path branch expected found =>
    "Branch " ++ toString branch.toNat ++ " of " ++ path ++ " has " ++ toString expected ++
      " outcomes but the merged coverage has " ++ toString found
  | .sourceMap cause => "Source map error: " ++ cause.message

end Error

end Coverage
