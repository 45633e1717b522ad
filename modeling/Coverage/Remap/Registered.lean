import Coverage.Remap.Snapshot
import Coverage.Text.Blank
import Coverage.Text.Split

/-!
# The source maps of generated files

A source map is registered for a file as a value, as the URL that the file names it by, or not at
all, in which case the map that its coverage carries is used. A URL holds the map itself or names a
file. Maps are read when they are needed, and one that cannot be read counts as none.
-/

namespace Coverage.Remap

open Coverage.Json (Value)
open Coverage.SourceMap (Index)

/-- Where the source map of a file is. -/
inductive MapPlace where
  /-- In a URL, in base 64. -/
  | encoded (payload : List Char)
  | file (path : String)
  | inline (map : Value)
  deriving Inhabited

/-- The source maps of generated files by the paths of the files. -/
structure MapStore where
  maps : List (String × MapPlace)
  deriving Inhabited

namespace MapStore

/-- The store without maps. -/
def empty : MapStore := ⟨[]⟩

/-- How many files have a map. -/
def size (s : MapStore) : Nat := s.maps.length

/-- The store with the map of a file, in place of the one that was registered before. -/
def insert (s : MapStore) (file : String) (place : MapPlace) : MapStore :=
  ⟨(file, place) :: s.maps.filter fun e => e.1 ≠ file⟩

/-- The store with a source map as a value. -/
def insertMap (s : MapStore) (file : String) (map : Value) : MapStore :=
  s.insert file (.inline map)

/-- Whether a name in a path leads nowhere else. -/
def isIdle (name : List Char) : Bool := name.isEmpty || name = ['.']

/-- The names of a path without those at its end that lead nowhere else. -/
def dropIdle (names : List (List Char)) : List (List Char) :=
  (names.reverse.dropWhile isIdle).reverse

/-- The directory of the file at a path, as it is written; empty where the path has a single
name. -/
def directoryText (file : List Char) : List Char :=
  match Text.splitWhere (· = '/') file with
  | [] => []
  | first :: names =>
    match dropIdle names with
    | [] => []
    | names =>
      match dropIdle names.dropLast with
      | [] => if first.isEmpty then ['/'] else first
      | above => ['/'].intercalate (first :: above)

/-- A path as written in a directory as written. -/
def joinPath (directory path : List Char) : List Char :=
  if path.head? = some '/' || directory.isEmpty then path
  else if directory.getLast? = some '/' then directory ++ path
  else directory ++ '/' :: path

/-- The store with the URL that a file names its map by. Of a URL that holds the map only base 64
is understood. -/
def insertUrl (s : MapStore) (file url : String) : MapStore :=
  let url := url.toList
  if "data:".toList.isPrefixOf url then
    match Text.splitOnce "base64,".toList (url.drop 5) with
    | some (_, payload) => s.insert file (.encoded payload)
    | none => s
  else
    s.insert file (.file (String.ofList (joinPath (directoryText file.toList) url)))

/-- The text of a list of bytes, if they are the bytes of one. -/
def textOf? (bytes : List UInt8) : Option String := (Text.decodeUtf8 bytes).toOption

/-- The paths of the files that maps are read from. -/
def filePaths (s : MapStore) : List String :=
  s.maps.filterMap fun e => match e.2 with
    | .file path => some path
    | _ => none

/-- Reads a source map; `contents` tells what the files hold. -/
def read? (contents : String → Option (List UInt8)) : MapPlace → Option Index
  | .encoded payload => do
    (Index.ofText (← textOf? (← Digest.base64Decode (Text.trim payload)))).toOption
  | .file path => do (Index.ofText (← textOf? (← contents path))).toOption
  | .inline map => (Index.ofValue map).toOption

/-- The source map of a file: the registered one, or else the one that its coverage carries. -/
def find? (s : MapStore) (contents : String → Option (List UInt8)) (r : FileRecord) :
    Option Index :=
  match s.maps.lookup r.path with
  | some place => read? contents place
  | none => r.sourceMap.bind fun v => (Index.ofValue v).toOption

/-- The snapshot moved onto its sources by the maps of the store. -/
def onSources (s : MapStore) (contents : String → Option (List UInt8)) (snapshot : Snapshot) :
    Snapshot :=
  Remap.onSources (fun r => (s.find? contents r).map Index.consumer) snapshot

end MapStore

end Coverage.Remap
