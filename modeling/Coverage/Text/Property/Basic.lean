import Coverage.Text.Packed
import Coverage.Text.Property.Age
import Coverage.Text.Property.Binary
import Coverage.Text.Property.Category
import Coverage.Text.Property.Fold
import Coverage.Text.Property.Script
import Coverage.Text.Property.Segment
import Coverage.Text.Ranges

/-!
# Properties of characters

The sets of characters that the properties of the Unicode character database tell apart, by the
names of the properties and of their values. Names are the same if they differ in case, blanks,
hyphens and underscores only, and in a leading `is`.
-/

namespace Coverage.Text.Property

/-- A name without what makes no difference. -/
def plainName (name : List Char) : List Char :=
  let strip := fun (cs : List Char) =>
    (cs.filter fun c => c ≠ ' ' && c ≠ '_' && c ≠ '-' && c.toNat < 128).map Char.toLower
  match name with
  | i :: s :: rest =>
    if i.toLower = 'i' && s.toLower = 's' then
      if strip rest = ['c'] then ['i', 's', 'c'] else strip rest
    else strip name
  | _ => strip name

/-- The sets of a packed table. -/
def setsOf (packed : List String) : Array Ranges := (unpack packed).map (Ranges.ofSteps 0)

/-- The position of a plain name among lists of names. -/
def index? (names : List (List String)) (name : List Char) : Option Nat :=
  names.findIdx? fun ns => ns.any fun n => plainName n.toList = name

/-- The union of several sets. -/
def unionOf (sets : List Ranges) : Ranges := sets.foldl Ranges.union []

/-! ## General categories -/

/-- The general categories. -/
def categories : Array Ranges := setsOf packedCategories

/-- The union of the general categories whose short names satisfy `p`. -/
def categoriesWhere (p : String → Bool) : Ranges :=
  unionOf ((categoryNames.zip categories.toList).filterMap fun (names, set) =>
    if names.head?.any p then some set else none)

/-- The members of a group of general categories. -/
def inGroup (group : List String) (category : String) : Bool :=
  match group.head? with
  | some "LC" => category = "Lu" || category = "Ll" || category = "Lt"
  | some name => name.toList.isPrefixOf category.toList
  | none => false

/-- The general category with a plain name. -/
def category? (name : List Char) : Option Ranges :=
  match String.ofList name with
  | "any" => some [(0, Ranges.maxCode)]
  | "ascii" => some [(0, 127)]
  | "assigned" => some ((categoriesWhere (· = "Cn")).complement Ranges.maxCode)
  | _ =>
    match index? categoryNames name with
    | some i => categories[i]?
    | none => (index? categoryGroupNames name).map fun i =>
      categoriesWhere (inGroup (categoryGroupNames.getD i []))

/-! ## Scripts, ages and classes of divisions -/

/-- The scripts. -/
def scripts : Array Ranges := setsOf packedScripts

/-- The scripts with the characters that extend them. -/
def extensions : Array Ranges := setsOf packedExtensions

/-- The script with a plain name. -/
def script? (name : List Char) : Option Ranges := do scripts[← index? scriptNames name]?

/-- The script with a plain name and the characters that extend it. -/
def extension? (name : List Char) : Option Ranges := do extensions[← index? scriptNames name]?

/-- The characters of the version with a plain name and of those before. -/
def age? (name : List Char) : Option Ranges := do
  let i ← index? ageNames name
  return unionOf ((setsOf packedAges).toList.take (i + 1))

/-- The class with a plain name in a division of texts. -/
def divisionClass? (names : List (List String)) (packed : List String) (name : List Char) :
    Option Ranges := do
  (setsOf packed)[← index? names name]?

/-! ## Properties that hold or do not hold -/

/-- The characters with properties that hold or do not hold. -/
def binaries : Array Ranges := setsOf packedBinaries

/-- The characters with the property of a plain name. -/
def binary? (name : List Char) : Option Ranges := do binaries[← index? binaryNames name]?

/-! ## Queries -/

/-- The characters that a single name stands for: those with a property, in a category or of a
script. The names of three categories are those of other properties too. -/
def named? (name : List Char) : Option Ranges :=
  let name := plainName name
  let property := if ["cf", "sc", "lc"].contains (String.ofList name) then none else binary? name
  (property.or (category? name)).or (script? name)

/-- The characters for which a property has a value. -/
def valued? (property value : List Char) : Option Ranges :=
  let value := plainName value
  match String.ofList (plainName property) with
  | "gc" | "generalcategory" => category? value
  | "sc" | "script" => script? value
  | "scx" | "scriptextensions" => extension? value
  | "age" => age? value
  | "gcb" | "graphemeclusterbreak" => divisionClass? clusterNames packedClusters value
  | "wb" | "wordbreak" => divisionClass? wordNames packedWords value
  | "sb" | "sentencebreak" => divisionClass? sentenceNames packedSentences value
  | _ => none

/-! ## Sets with uses of their own -/

/-- The decimal digits of all scripts. -/
def digits : Ranges := categoriesWhere (· = "Nd")

/-- The letters and what else is alphabetic. -/
def alphabetic : Ranges := (binary? "alphabetic".toList).getD []

/-- The letters and what else is alphabetic, and the numbers of all kinds. -/
def alphanumeric : Ranges := alphabetic.union (categoriesWhere (inGroup ["N"]))

/-- The characters that words consist of: letters and what else is alphabetic, marks, decimal
digits, connectors, and the characters that join others. -/
def words : Ranges :=
  unionOf [alphabetic, categoriesWhere (inGroup ["M"]), digits,
    categoriesWhere (· = "Pc"), (binary? "joincontrol".toList).getD []]

/-- The white space. -/
def blanks : Ranges := (binary? "whitespace".toList).getD []

/-! ## Letters of either case -/

/-- The sets of letters that differ in case only, the first of which lies behind `start`. -/
def foldsFrom (start : Nat) : List (List Nat) → List (List Nat)
  | [] => []
  | steps :: rest =>
    let letters := runningSums start steps
    letters :: foldsFrom (letters.headD start) rest

/-- The sets of letters that differ in case only. -/
def folds : List (List Nat) := foldsFrom 0 (unpack packedFolds).toList

/-- A set with the letters that differ from its members in case only. -/
def withCases (s : Ranges) : Ranges :=
  s.union (Ranges.ofList (folds.flatMap fun letters =>
    if letters.any s.contains then letters else []))

end Coverage.Text.Property
