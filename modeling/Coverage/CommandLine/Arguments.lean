/-!
# Commands and their arguments

A command line is the name of a command, paths and options. Options may stand before and behind
paths; the value of an option is the next argument or stands behind an equals sign, and no option
is given twice. Behind a double dash everything is a path.
-/

namespace Coverage.CommandLine

/-- What can be asked for on a command line. -/
inductive Command where
  | instrument (file : String) (output coverageOut config : Option String)
      (esModules autoWrap : Bool)
  | merge (files : List String) (output : String)
  | summary (files : List String) (tree : String)
  | uncovered (files : List String) (sourceFile : String)
  | remap (files : List String) (output : String)
  /-- The name of the program and its version. -/
  | version
  deriving DecidableEq, Inhabited, Repr

/-- What kind of value an option has. -/
inductive OptionKind where
  | path
  | text
  | flag
  deriving DecidableEq, Inhabited, Repr

/-- The options of a command, by name. -/
abbrev Known := List (String × OptionKind)

/-- The arguments of a command: paths, and options with their values, which are empty for
flags. -/
structure Arguments where
  paths : List String
  options : List (String × String)
  deriving DecidableEq, Inhabited, Repr

namespace Arguments

/-- No arguments. -/
def none : Arguments := ⟨[], []⟩

/-- The arguments with one more path. A path is not empty. -/
def addPath (a : Arguments) (path : String) : Option Arguments :=
  if path.isEmpty then .none else some { a with paths := a.paths ++ [path] }

/-- The arguments with one more option. -/
def addOption (a : Arguments) (kind : OptionKind) (name value : String) : Option Arguments :=
  if (a.options.lookup name).isSome || (kind = .path && value.isEmpty) then .none
  else some { a with options := a.options ++ [(name, value)] }

/-- The value of an option. -/
def value? (a : Arguments) (name : String) : Option String := a.options.lookup name

/-- Whether a flag is given. -/
def has (a : Arguments) (name : String) : Bool := (a.value? name).isSome

end Arguments

/-- Whether an argument is written like an option and so is neither a path nor a value. -/
def looksLikeOption (arg : String) : Bool :=
  match arg.toList with
  | '-' :: _ :: _ => true
  | _ => false

/-- The name of a long option and the value behind its equals sign. -/
def splitOption? (arg : String) : Option (String × Option String) :=
  match arg.toList with
  | '-' :: '-' :: cs =>
    let name := String.ofList (cs.takeWhile (· ≠ '='))
    match cs.dropWhile (· ≠ '=') with
    | _ :: value => some (name, some (String.ofList value))
    | [] => some (name, none)
  | _ => none

/-- Reads arguments behind those that have been read. -/
def readArguments (known : Known) (a : Arguments) : List String → Option Arguments
  | [] => some a
  | "--" :: paths => paths.foldlM Arguments.addPath a
  | arg :: rest =>
    if looksLikeOption arg then do
      let (name, value) ← splitOption? arg
      let kind ← known.lookup name
      match kind, value with
      | .flag, some _ => none
      | .flag, none => readArguments known (← a.addOption .flag name "") rest
      | _, some value => readArguments known (← a.addOption kind name value) rest
      | _, none =>
        match rest with
        | value :: rest =>
          if looksLikeOption value then none
          else readArguments known (← a.addOption kind name value) rest
        | [] => none
    else do readArguments known (← a.addPath arg) rest

/-- The paths, of which there must be some. -/
def somePaths (a : Arguments) : Option (List String) :=
  if a.paths.isEmpty then none else some a.paths

/-- Whether an argument asks for the version, which may come before anything else. -/
def asksForVersion (arg : String) : Bool := arg = "--version" || arg.startsWith "-V"

namespace Command

/-- Reads a command line. -/
def ofArguments? : List String → Option Command
  | "instrument" :: rest => do
    let a ← readArguments
      [("output", .path), ("coverage-out", .path), ("config", .path), ("es-modules", .flag),
        ("auto-wrap", .flag)] .none rest
    match a.paths with
    | [file] =>
      return .instrument file (a.value? "output") (a.value? "coverage-out") (a.value? "config")
        (a.has "es-modules") (a.has "auto-wrap")
    | _ => none
  | "merge" :: rest => do
    let a ← readArguments [("output", .path)] .none rest
    return .merge (← somePaths a) (← a.value? "output")
  | "summary" :: rest => do
    let a ← readArguments [("tree", .text)] .none rest
    return .summary (← somePaths a) ((a.value? "tree").getD "pkg")
  | "uncovered" :: rest => do
    let a ← readArguments [("source-file", .text)] .none rest
    return .uncovered (← somePaths a) (← a.value? "source-file")
  | "remap" :: rest => do
    let a ← readArguments [("output", .path)] .none rest
    return .remap (← somePaths a) (← a.value? "output")
  | arg :: _ => if asksForVersion arg then some .version else none
  | [] => none

end Command

end Coverage.CommandLine
