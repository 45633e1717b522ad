import Coverage.Error
import Coverage.Text.Split

/-!
# File paths as lists of segments

Both slashes separate segments, and neither the root nor a drive letter is a segment, so that
`/a/b/c.js`, `a\b\c.js` and `C:\a\\b/c.js` are the same path. Names of sources are resolved
against the directory of the file that mentions them.
-/

namespace Coverage

/-- A path below the root of the file system. -/
structure FilePath where
  segments : List String
  deriving DecidableEq, Inhabited, Repr

namespace FilePath

/-- Whether a character separates segments. -/
def isSeparator (c : Char) : Bool := c = '/' || c = '\\'

/-- The stretches between separators, empty ones included. -/
def split (cs : List Char) : List (List Char) := Text.splitWhere isSeparator cs

/-- Whether a segment is a drive letter with its colon. -/
def isDrive : List Char → Bool
  | [c, ':'] => c.isAlpha
  | _ => false

/-- The segments of a path as it is written. -/
def segmentsOf (cs : List Char) : List (List Char) := (split cs).filter fun s => !s.isEmpty

/-- Reads a path. -/
def parse (text : String) : FilePath :=
  let segments := segmentsOf text.toList
  let segments := match segments with
    | first :: rest => if isDrive first then rest else segments
    | [] => []
  ⟨segments.map String.ofList⟩

/-- The path without segments. -/
def root : FilePath := ⟨[]⟩

/-- How many segments a path has. -/
def size (p : FilePath) : Nat := p.segments.length

/-- Whether a path is the root. -/
def isRoot (p : FilePath) : Bool := p.segments.isEmpty

/-- The enclosing path, which the root does not have. -/
def parent? (p : FilePath) : Option FilePath :=
  if p.isRoot then none else some ⟨p.segments.dropLast⟩

/-- The enclosing path, or what is wrong with asking for it. -/
def parent (p : FilePath) : Except Error FilePath :=
  match p.parent? with
  | some q => .ok q
  | none => .error .rootHasNoParent

/-- The enclosing path; the root stands for its own. -/
def directory (p : FilePath) : FilePath := ⟨p.segments.dropLast⟩

/-- The last segment, empty for the root. -/
def name (p : FilePath) : String := p.segments.getLast?.getD ""

/-- Whether `other` is `p` or lies below it. -/
def contains (p other : FilePath) : Bool := p.segments.isPrefixOf other.segments

/-- Whether `other` lies below `p`. -/
def isAbove (p other : FilePath) : Bool := p.contains other && p.size ≠ other.size

/-- The longest list that two lists both start with. -/
def commonStart : List String → List String → List String
  | a :: as, b :: bs => if a = b then a :: commonStart as bs else []
  | _, _ => []

/-- The deepest path that contains both. -/
def common (p q : FilePath) : FilePath := ⟨commonStart p.segments q.segments⟩

/-- The path without its first `n` segments. -/
def strip (p : FilePath) (n : Nat) : FilePath := ⟨p.segments.drop n⟩

/-- The path with a segment behind it. -/
def push (p : FilePath) (segment : String) : FilePath := ⟨p.segments ++ [segment]⟩

/-- The path with a segment in front of it. -/
def unshift (p : FilePath) (segment : String) : FilePath := ⟨segment :: p.segments⟩

/-- The first segment and the path behind it. -/
def shift (p : FilePath) : Option String × FilePath :=
  match p.segments with
  | [] => (none, p)
  | s :: rest => (some s, ⟨rest⟩)

/-- The segments with slashes between them. -/
def text (p : FilePath) : String := "/".intercalate p.segments

@[simp] theorem directory_segments (p : FilePath) : p.directory.segments = p.segments.dropLast :=
  rfl

/-! ## Resolving the name of a source -/

/-- Whether a path as written starts at the root or on a drive. -/
def isAbsolute : List Char → Bool
  | c :: rest =>
    isSeparator c || match rest with
      | ':' :: _ => c.isAlpha
      | _ => false
  | [] => false

/-- The path as written without `file://` in front. -/
def dropScheme (cs : List Char) : List Char :=
  if "file://".toList.isPrefixOf cs then cs.drop 7 else cs

/-- What stands before the last separator, nothing where there is none. -/
def directoryOf (cs : List Char) : List Char :=
  ((cs.reverse.dropWhile fun c => !isSeparator c).drop 1).reverse

/-- One step of a walk, `walked` being the segments so far in reverse: two dots go back one
segment, and stay at the root of an absolute path. -/
def step (absolute : Bool) (walked : List String) (segment : String) : List String :=
  if segment = "" ∨ segment = "." then walked
  else if segment = ".." then
    match walked with
    | [] => if absolute then [] else [".."]
    | last :: rest =>
      if last ≠ ".." then rest
      else if absolute then last :: rest
      else ".." :: last :: rest
  else segment :: walked

/-- Resolves the name of a source as written in `generated`, the file that was made from it. An
absolute name stands for itself. -/
def resolve (source generated : String) : String :=
  let source := dropScheme source.toList
  if isAbsolute source then String.ofList source
  else
    let absolute := isAbsolute generated.toList
    let segments := (split (directoryOf generated.toList) ++ split source).map String.ofList
    let walked := (segments.foldl (step absolute) []).reverse
    let joined := "/".intercalate walked
    if absolute && !isDrive (walked.headD "").toList then "/" ++ joined else joined

end FilePath

end Coverage
