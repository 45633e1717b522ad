import Coverage.FileFault

/-!
# Access to files

Commands read and write files by way of a few operations, so that they can be run on the files of
a system as well as on files that are held in memory.
-/

namespace Coverage.CommandLine

/-- The operations on files. -/
structure Files (m : Type → Type) where
  read : String → m (Except FileFault (List UInt8))
  write : String → List UInt8 → m (Except FileFault Unit)
  /-- Whether a path names a file that is there. -/
  isFile : String → m Bool

/-! ## Files in memory -/

/-- Files by the names that lead to them from the working directory. Two dots stand for each
directory above it, and a slash for the root of the system. -/
structure Disk where
  files : List (List String × List UInt8)
  deriving DecidableEq, Inhabited

/-- What a path leads to. -/
inductive Place where
  | file (contents : List UInt8)
  | directory
  /-- Nothing, in a directory that is there. -/
  | free
  deriving DecidableEq, Inhabited

namespace Disk

/-- The most bytes of a name. -/
def maxName : Nat := 255

/-- The bytes that a path stays below. -/
def maxPath : Nat := 4096

/-- The file that is always empty. -/
def nullDevice : List String := ["/", "dev", "null"]

/-- The directories below the root that a system has besides that of the devices. -/
def systemDirectories : List String :=
  ["bin", "boot", "etc", "home", "lib", "media", "mnt", "opt", "proc", "root", "run", "sbin",
    "srv", "sys", "tmp", "usr", "var"]

/-- Whether names lead to a directory. -/
def hasDirectory (d : Disk) (names : List String) : Bool :=
  names.all (· = "..") || systemDirectories.any (fun name => names = ["/", name]) ||
    (nullDevice :: d.files.map (·.1)).any fun file => names.isPrefixOf file && file ≠ names

/-- What names lead to. -/
def at? (d : Disk) (names : List String) : Option Place :=
  if d.hasDirectory names then some .directory
  else if names = nullDevice then some (.file [])
  else (d.files.lookup names).map .file

/-- The directory above one. The root is above itself. -/
def above (names : List String) : List String :=
  if names = ["/"] then names
  else if names.all (· = "..") then ".." :: names
  else names.dropLast

/-- Follows the names of a path from a directory on: the names that lead there from the working
directory, and what they lead to. -/
def follow (d : Disk) (here : List String) : List String → Except FileFault (List String × Place)
  | [] => .ok (here, .directory)
  | name :: rest =>
    if name.isEmpty || name = "." then follow d here rest
    else if name = ".." then follow d (above here) rest
    else if maxName < name.utf8ByteSize then .error .nameTooLong
    else
      match d.at? (here ++ [name]), rest with
      | some .directory, rest => follow d (here ++ [name]) rest
      | some place, [] => .ok (here ++ [name], place)
      | some _, _ => .error .notDirectory
      | none, [] => .ok (here ++ [name], .free)
      | none, _ => .error .notFound

/-- Where a path starts. -/
def start (path : String) : List String := if path.startsWith "/" then ["/"] else []

/-- What a path leads to. -/
def find (d : Disk) (path : String) : Except FileFault (List String × Place) :=
  if path.isEmpty then .error .notFound
  else if maxPath ≤ path.utf8ByteSize then .error .nameTooLong
  else d.follow (start path) (path.splitOn "/")

/-- Reads a file. -/
def read (d : Disk) (path : String) : Except FileFault (List UInt8) := do
  match (← d.find path).2 with
  | .file contents => .ok contents
  | .directory => .error .isDirectory
  | .free => .error .notFound

/-- Puts a file under its names. -/
def put (d : Disk) (names : List String) (contents : List UInt8) : Disk :=
  if names = nullDevice then d
  else ⟨(names, contents) :: d.files.filter fun f => f.1 ≠ names⟩

/-- The names of a path without the slashes that it ends with. -/
def namesOf (path : String) : List String :=
  (String.ofList (path.toList.reverse.dropWhile (· = '/')).reverse).splitOn "/"

/-- Writes a file. A path with a slash at its end can only be that of a directory. -/
def write (d : Disk) (path : String) (contents : List UInt8) : Except FileFault Disk := do
  if path.endsWith "/" && path.utf8ByteSize < maxPath then
    match (← d.follow (start path) (namesOf path).dropLast).2 with
    | .directory => throw .isDirectory
    | .file _ => throw .notDirectory
    | .free => throw .notFound
  let (names, place) ← d.find path
  match place with
  | .directory => .error .isDirectory
  | _ => .ok (d.put names contents)

/-- Whether a path leads to a file. -/
def isFile (d : Disk) (path : String) : Bool :=
  match d.read path with
  | .ok _ => true
  | .error _ => false

/-- The disk with files at paths of which no part has to be there yet. Of two files at one path the
later counts. -/
def ofFiles (files : List (String × List UInt8)) : Disk :=
  files.foldl (fun d f =>
    let names := (f.1.splitOn "/").foldl (fun here name =>
      if name.isEmpty || name = "." then here
      else if name = ".." then above here
      else here ++ [name]) (start f.1)
    d.put names f.2) ⟨[]⟩

end Disk

/-- The operations on files in memory. -/
def Files.inMemory : Files (StateM Disk) where
  read path := return (← get).read path
  write path contents := do
    match (← get).write path contents with
    | .ok d =>
      set d
      return .ok ()
    | .error fault => return .error fault
  isFile path := return (← get).isFile path

end Coverage.CommandLine
