/-!
# What can go wrong with files
-/

namespace Coverage

/-- Why a file cannot be read or written. -/
inductive FileFault where
  | notFound
  | isDirectory
  | notDirectory
  | denied
  /-- A name in the path, or the whole path, is longer than the system allows. -/
  | nameTooLong
  /-- The file is no text. -/
  | notText
  | other (text : String)
  deriving DecidableEq, Inhabited, Repr

/-- The message of a fault, in the words of the system. -/
def FileFault.message : FileFault → String
  | notFound => "No such file or directory (os error 2)"
  | isDirectory => "Is a directory (os error 21)"
  | notDirectory => "Not a directory (os error 20)"
  | denied => "Permission denied (os error 13)"
  | nameTooLong => "File name too long (os error 36)"
  | notText => "stream did not contain valid UTF-8"
  | other text => text

/-- The fault with a number of the system. -/
def FileFault.ofCode? : Nat → Option FileFault
  | 2 => some notFound
  | 13 => some denied
  | 20 => some notDirectory
  | 21 => some isDirectory
  | 36 => some nameTooLong
  | _ => none

end Coverage
