import Coverage.Proofs.FileRecord.RoundTrip
import Coverage.Proofs.Instrument.Registration

/-!
# Registrations read back from any program

A program may have other functions in front of its registration, and the registration may be laid
out over several lines. `RegistersAt` says what its function shows in the syntax tree of such a
program: the variables up to the coverage object, each where the text of the registration has it.
From these places the coverage object is cut out of the text and read back (`embedded?_registered`).
-/

namespace Coverage.Instrument

open Coverage.Json (Value quote)
open Coverage.Script (Node Kind Role)

/-- Records that are read back from their own text are read back from a registration. -/
theorem Embeddable.of_portable {r : FileRecord} (h : r.Portable 126) : Embeddable r :=
  have hvalid := FileRecord.validate_eq_ok_iff.1 h.valid
  ⟨hvalid.1, hvalid.2, h.exact, h.sourceMap⟩

/-! ### The text of a registration -/

/-- What stands in front of every line of the function of a registration. -/
def lineGap (o : Options) : List Char := if o.compact then [] else "\n  ".toList

/-- The start of a registration, up to the brace of its function. -/
def headText (accessor : String) : List Char := ("function " ++ accessor ++ "() \x7b").toList

/-- The variables that a registration declares, up to the coverage object. -/
def dataVariables (path hash : String) (data : Value) (o : Options) : List (String × String) :=
  [("path", quote path), ("hash", quote hash), ("global", globalText o),
    ("gcv", quote o.coverageVariable),
    ("coverageData", if o.compact then data.compact else data.pretty)]

theorem toList_intercalate (sep : String) (l : String) (lines : List String) :
    (sep.intercalate (l :: lines)).toList =
      l.toList ++ lines.flatMap fun l => sep.toList ++ l.toList := by
  rw [String.toList_intercalate]
  induction lines generalizing l with
  | nil => simp
  | cons m lines ih =>
    have hrest := ih m
    simp only [List.map_cons] at hrest ⊢
    rw [List.intercalate_cons_cons, hrest]
    simp

/-- In both layouts the lines of a registration stand behind its head, each with its gap. -/
theorem toList_registration_lines (accessor path hash : String) (data : Value) (o : Options) :
    ∃ behind, (registration accessor path hash data o).toList = headText accessor ++
      ((registrationLines accessor path hash data o).flatMap
        (fun l => lineGap o ++ l.toList) ++ behind) := by
  have hopen : "() \x7b\n".toList = "() \x7b".toList ++ ['\n'] := by decide
  have hgap : "\n  ".toList = '\n' :: "  ".toList := by decide
  unfold registration headText lineGap
  cases hcompact : o.compact
  · refine ⟨("\n\x7d\n" ++ accessor ++ "();\n").toList, ?_⟩
    have hlines : (registrationLines accessor path hash data o).map (fun l => "  " ++ l) ≠ [] := by
      simp [registrationLines]
    obtain ⟨l, lines, hl⟩ := List.exists_cons_of_ne_nil hlines
    have hflat : '\n' :: ("\n".intercalate (l :: lines)).toList =
        (registrationLines accessor path hash data o).flatMap
          fun l => "\n  ".toList ++ l.toList := by
      rw [toList_intercalate]
      have hmap := List.flatMap_map (fun l => "  " ++ l) (fun l => "\n".toList ++ l.toList)
        (registrationLines accessor path hash data o)
      rw [hl, List.flatMap_cons] at hmap
      simpa [hgap] using hmap
    simp only [Bool.false_eq_true, if_false, String.toList_append, hopen, hl, ← hflat,
      List.append_assoc, List.cons_append, List.nil_append]
  · refine ⟨("\x7d" ++ accessor ++ "();").toList, ?_⟩
    simp only [if_true, String.toList_append, toList_join, List.nil_append, List.append_assoc]

/-- The statements of the variables up to the coverage object are its first lines. -/
theorem toList_registration_data (accessor path hash : String) (data : Value) (o : Options) :
    ∃ behind, (registration accessor path hash data o).toList = headText accessor ++
      ((dataVariables path hash data o).flatMap (fun e => lineGap o ++ variableLine e) ++
        behind) := by
  obtain ⟨behind, h⟩ := toList_registration_lines accessor path hash data o
  have hpath := toList_variable "var path = " "path" (quote path) (by decide)
  have hhash := toList_variable "var hash = " "hash" (quote hash) (by decide)
  have hglobal := toList_variable "var global = " "global" (globalText o) (by decide)
  have hgcv := toList_variable "var gcv = " "gcv" (quote o.coverageVariable) (by decide)
  have hdata := toList_variable "var coverageData = " "coverageData"
    (if o.compact then data.compact else data.pretty) (by decide)
  rw [h, registrationLines]
  simp only [List.flatMap_cons, hpath, hhash, hglobal, hgcv, hdata, dataVariables,
    List.flatMap_nil, List.append_assoc, List.append_nil]
  exact ⟨_, rfl⟩

/-! ### The nodes of a registration -/

/-- A node stands over a part of a text, given with all that stands before it. -/
structure Covers (before part : List Char) (n : Node) : Prop where
  start : n.start = Text.byteLength before
  stop : n.stop = Text.byteLength (before ++ part)

theorem Covers.text {before part behind src : List Char} {n : Node} (h : Covers before part n)
    (hsrc : src = before ++ (part ++ behind)) : n.text src = part := by
  rw [Node.text, Text.slice, h.start, h.stop, hsrc, Text.dropBytes_byteLength,
    Text.byteLength_append, Nat.add_sub_cancel_left, Text.takeBytes_byteLength]

/-- The declaration of one variable, over the statement that stands behind `before`. A value that
starts with a brace is an object. -/
structure DeclaresAt (before : List Char) (e : String × String) (n : Node) : Prop where
  kind : n.kind = .variableDeclaration
  declarator : ∃ d name value, n.namedChildren = [d] ∧
    d.child? .name = some name ∧ Covers (before ++ "var ".toList) e.1.toList name ∧
    d.child? .value = some value ∧
    Covers (before ++ "var ".toList ++ e.1.toList ++ " = ".toList) e.2.toList value ∧
    (e.2.toList.head? = some '\x7b' → value.kind = .object)

/-- Nodes declare variables one behind the other, with a gap in front of each. -/
inductive DeclareFrom (gap : List Char) : List Char → List (String × String) → List Node → Prop where
  | nil {before : List Char} : DeclareFrom gap before [] []
  | cons {before : List Char} {e : String × String} {es : List (String × String)} {n : Node}
      {ns : List Node} : DeclaresAt (before ++ gap) e n →
      DeclareFrom gap (before ++ gap ++ variableLine e) es ns →
      DeclareFrom gap before (e :: es) (n :: ns)

/-- A function is that of a registration which stands behind `before`. Of its body only the
variables up to the coverage object are described. -/
structure RegistersAt (before : List Char) (accessor path hash : String) (data : Value)
    (o : Options) (function : Node) : Prop where
  kind : function.kind = .functionDeclaration
  body : ∃ body declarations others, function.child? .body = some body ∧
    body.namedChildren = declarations ++ others ∧
    DeclareFrom (lineGap o) (before ++ headText accessor) (dataVariables path hash data o)
      declarations

variable {src before gap : List Char}

theorem DeclaresAt.declares {e : String × String} {n : Node} {behind : List Char}
    (h : DeclaresAt before e n) (hsrc : src = before ++ (variableLine e ++ behind)) :
    ∃ d, n.namedChildren = [d] ∧ Declares src d e := by
  obtain ⟨d, name, value, hd, hname, hcovers, hvalue, hcovers', hbrace⟩ := h.declarator
  have hsrc : src = before ++ "var ".toList ++
      (e.1.toList ++ (" = ".toList ++ (e.2.toList ++ ';' :: behind))) := by
    simp [hsrc, variableLine]
  have hsrc' : src = before ++ "var ".toList ++ e.1.toList ++ " = ".toList ++
      (e.2.toList ++ ';' :: behind) := by
    simp [hsrc]
  exact ⟨d, hd, ⟨name, hname, hcovers.text hsrc⟩, value, hvalue, hcovers'.text hsrc', hbrace⟩

/-- Nodes that declare variables where the text has them have these variables as declarators. -/
theorem DeclareFrom.declares {es : List (String × String)} {ns : List Node} {behind : List Char}
    (h : DeclareFrom gap before es ns)
    (hsrc : src = before ++ (es.flatMap (fun e => gap ++ variableLine e) ++ behind)) :
    List.Forall₂ (Declares src)
      ((ns.filter fun n => n.kind = .variableDeclaration).flatMap Node.namedChildren) es := by
  induction h with
  | nil => exact .nil
  | @cons before e es n ns hn _ ih =>
    have hfirst : src = before ++ gap ++
        (variableLine e ++ (es.flatMap (fun e => gap ++ variableLine e) ++ behind)) := by
      simp [hsrc]
    obtain ⟨d, hd, hdeclares⟩ := hn.declares hfirst
    rw [List.filter_cons, if_pos (decide_eq_true hn.kind), List.flatMap_cons, hd]
    exact .cons hdeclares (ih (by simp [hsrc]))

/-- Only the declaration of the coverage object is read. -/
theorem findSome?_dataValue? {r : FileRecord} {ds : List Node} {path : String} {o : Options}
    (others : List Node)
    (h : List.Forall₂ (Declares src) ds (dataVariables path (dataHash r) (coverageData r) o)) :
    ∃ v, (ds ++ others).findSome? (dataValue? src) = some v ∧
      v.text src =
        (if o.compact then (coverageData r).compact else (coverageData r).pretty).toList := by
  rcases h with _ | ⟨hpath, _ | ⟨hhash, _ | ⟨hglobal, _ | ⟨hgcv, _ | ⟨hdata, -⟩⟩⟩⟩⟩
  obtain ⟨v, hv, htext⟩ := exists_dataValue? hdata (head?_toList_data r o.compact)
  refine ⟨v, ?_, htext⟩
  simp only [List.cons_append, List.findSome?_cons, dataValue?_of_ne hpath (by decide),
    dataValue?_of_ne hhash (by decide), dataValue?_of_ne hglobal (by decide),
    dataValue?_of_ne hgcv (by decide), hv]

/-- The record of a registration is found in its function. -/
theorem RegistersAt.embeddedIn? {r : FileRecord} (hr : Embeddable r) {accessor path : String}
    {o : Options} {function : Node} {after : List Char}
    (h : RegistersAt before accessor path (dataHash r) (coverageData r) o function)
    (hsrc : src = before ++
      ((registration accessor path (dataHash r) (coverageData r) o).toList ++ after)) :
    embeddedIn? src function = some ⟨r, dataHash r⟩ := by
  obtain ⟨body, declarations, others, hbody, hchildren, hfrom⟩ := h.body
  obtain ⟨behind, htext⟩ :=
    toList_registration_data accessor path (dataHash r) (coverageData r) o
  have hlines : src = before ++ headText accessor ++
      ((dataVariables path (dataHash r) (coverageData r) o).flatMap
        (fun e => lineGap o ++ variableLine e) ++ (behind ++ after)) := by
    simp [hsrc, htext]
  obtain ⟨v, hv, hcut⟩ := findSome?_dataValue?
    ((others.filter fun n => n.kind = .variableDeclaration).flatMap Node.namedChildren)
    (hfrom.declares hlines)
  have hread : Embedded.ofText? (String.ofList (v.text src)) = some ⟨r, dataHash r⟩ := by
    rw [hcut, String.ofList_toList]
    refine Embedded.ofText?_data hr ?_
    cases o.compact
    · exact .inr rfl
    · exact .inl rfl
  simp only [Instrument.embeddedIn?, hbody, hchildren, List.filter_append, List.flatMap_append, hv,
    hread, bind, Option.bind]

/-- The first function with a coverage object that can be read is the one that is taken. -/
theorem embedded?_of_earlier {program function : Node} {earlier later : List Node} {e : Embedded}
    (hchildren : program.namedChildren = earlier ++ function :: later)
    (hkind : function.kind = .functionDeclaration) (he : embeddedIn? src function = some e)
    (hearlier : ∀ f ∈ earlier, f.kind = .functionDeclaration → embeddedIn? src f = none) :
    embedded? src program = some e := by
  have hnone : (earlier.filter fun n => n.kind = .functionDeclaration).findSome?
      (embeddedIn? src) = none := by
    refine List.findSome?_eq_none_iff.2 fun f hf => ?_
    obtain ⟨hmem, hkind⟩ := List.mem_filter.1 hf
    exact hearlier f hmem (of_decide_eq_true hkind)
  rw [embedded?, hchildren, List.filter_append, List.findSome?_append, hnone,
    List.filter_cons, if_pos (decide_eq_true hkind), List.findSome?_cons, he]
  rfl

/-! ### The nodes over a registration in one line -/

theorem declaresAt_variableNode (before : List Char) {e : String × String} {kind : Kind}
    (h : HasKind (e, kind)) : DeclaresAt before e (variableNode before e kind) :=
  ⟨rfl, _, _, _, rfl, rfl, ⟨rfl, rfl⟩, rfl, ⟨rfl, rfl⟩, h⟩

theorem declareFrom_variableNodes {es : List ((String × String) × Kind)}
    (h : ∀ e ∈ es, HasKind e) (before : List Char) :
    DeclareFrom [] before (es.map (·.1)) (variableNodes before es) := by
  induction es generalizing before with
  | nil => exact .nil
  | cons e es ih =>
    obtain ⟨he, hes⟩ := List.forall_mem_cons.1 h
    have hfirst := declaresAt_variableNode before he
    have hrest := ih hes (before ++ variableLine e.1)
    rw [← List.append_nil before] at hfirst hrest
    exact .cons (by simpa using hfirst) (by simpa using hrest)

theorem variableNodes_append (before : List Char) (es fs : List ((String × String) × Kind)) :
    variableNodes before (es ++ fs) =
      variableNodes before es ++ variableNodes (before ++ es.flatMap fun e => variableLine e.1) fs := by
  induction es generalizing before with
  | nil => simp [variableNodes]
  | cons e es ih => simp [variableNodes, ih]

/-- The nodes over a registration in one line are those of a registration. -/
theorem exists_registersAt {o : Options} (hcompact : o.compact = true)
    (hglobal : o.globalScopeFunction = true) (before : List Char) (accessor path : String)
    (r : FileRecord) :
    ∃ function call, registrationNodes before accessor.toList
        (leadingVariables path (dataHash r) (coverageData r) o) = [function, call] ∧
      function.isNamed = true ∧ call.isNamed = true ∧
      RegistersAt before accessor path (dataHash r) (coverageData r) o function := by
  have hkinds : ∀ e ∈ (leadingVariables path (dataHash r) (coverageData r) o).take 5, HasKind e :=
    fun e he => hasKind_leadingVariables hglobal path r e (List.mem_of_mem_take he)
  have hhead : before ++ "function ".toList ++ accessor.toList ++ "() ".toList ++ ['\x7b'] =
      before ++ headText accessor := by
    have hopen : "() \x7b".toList = "() ".toList ++ ['\x7b'] := by decide
    simp [headText, hopen]
  have hgap : lineGap o = [] := if_pos hcompact
  have hsplit := variableNodes_append (before ++ headText accessor)
    ((leadingVariables path (dataHash r) (coverageData r) o).take 5)
    ((leadingVariables path (dataHash r) (coverageData r) o).drop 5)
  rw [List.take_append_drop] at hsplit
  have hbody := namedChildren_blockNode
    (before ++ "function ".toList ++ accessor.toList ++ "() ".toList) accessor.toList
    (leadingVariables path (dataHash r) (coverageData r) o)
  rw [hhead, statementNodes, hsplit, List.append_assoc (variableNodes _ _)] at hbody
  refine ⟨_, _, rfl, rfl, rfl, rfl, _, _, _, rfl, hbody, ?_⟩
  rw [hgap]
  exact declareFrom_variableNodes hkinds _

/-! ### Any program with a registration -/

/-- A record that can be read back from its own text is read back from every program that has its
registration at top level, with its hash, whatever the function is called and however the
registration is laid out, unless a function before it has a coverage object that can be read. The
hash is that of the record that is read back. -/
theorem embedded?_registered {r : FileRecord} (hr : r.Portable 126) (accessor path : String)
    (o : Options) {before after : List Char}
    (hsrc : src = before ++
      ((registration accessor path (dataHash r) (coverageData r) o).toList ++ after))
    {program function : Node} {earlier later : List Node}
    (hchildren : program.namedChildren = earlier ++ function :: later)
    (hfunction : RegistersAt before accessor path (dataHash r) (coverageData r) o function)
    (hearlier : ∀ f ∈ earlier, f.kind = .functionDeclaration → embeddedIn? src f = none) :
    ∃ e, embedded? src program = some e ∧
      e.record = r ∧ e.hash = dataHash r ∧ e.hash = dataHash e.record := by
  have hin := hfunction.embeddedIn? (.of_portable hr) hsrc
  exact ⟨_, embedded?_of_earlier hchildren hfunction.kind hin hearlier, rfl, rfl, rfl⟩

/-- A path with quotes, a statement and a source map. -/
def quotedRecord : FileRecord :=
  { FileRecord.empty "/a \"b\".js" with
    statements := Table.empty.insert 0 default
    statementHits := Table.empty.insert 0 3
    sourceMap := some (.object [("mappings", .string "\x7d;")]) }

/-- A function that declares no coverage object. -/
def emptyFunction : Node :=
  nodeOver .functionDeclaration none [] "function f() \x7b\x7d".toList
    [nodeOver (.token "function") none [] "function".toList [],
      nodeOver .identifier (some .name) "function ".toList ['f'] [],
      nodeOver .formalParameters (some .parameters) "function f".toList "()".toList [],
      nodeOver .statementBlock (some .body) "function f() ".toList "\x7b\x7d".toList []]

/-- The text of a program with that function in front of the registration of the record. -/
def quotedText : List Char :=
  "function f() \x7b\x7d".toList ++
    ((registration "cov" "/b.js" (dataHash quotedRecord) (coverageData quotedRecord)
      .default).toList ++ "f();".toList)

def quotedProgram : Node :=
  ⟨.program, none, 0, Text.byteLength quotedText,
    emptyFunction :: registrationNodes "function f() \x7b\x7d".toList "cov".toList
      (leadingVariables "/b.js" (dataHash quotedRecord) (coverageData quotedRecord) .default)⟩

theorem embedded?_registered_quoted :
    ∃ e, embedded? quotedText quotedProgram = some e ∧ e.record = quotedRecord ∧
      e.hash = dataHash quotedRecord ∧ e.hash = dataHash e.record := by
  have hportable : quotedRecord.Portable 126 := by
    refine ⟨rfl, ⟨fun id l h => ?_, nofun, nofun⟩, fun v h => ?_⟩
    · have hzero : (default : Location).Exact :=
        ⟨.inr (.of_lt (by decide)), .inr (.of_lt (by decide))⟩
      exact Table.forall_get?_insert (fun _ _ hempty => nomatch hempty) 0 hzero id l h
    · cases h
      exact ⟨nofun, by decide, by simp, trivial, trivial⟩
  obtain ⟨function, call, hnodes, hnamed, hcall, hfunction⟩ := exists_registersAt
    (rfl : Options.default.compact = true) rfl "function f() \x7b\x7d".toList "cov" "/b.js"
    quotedRecord
  have hchildren : quotedProgram.namedChildren = [emptyFunction] ++ function :: [call] := by
    rw [quotedProgram, hnodes, Node.namedChildren]
    simp [hnamed, hcall, show emptyFunction.isNamed = true from rfl]
  refine embedded?_registered hportable "cov" "/b.js" .default rfl hchildren hfunction fun f hf _ => ?_
  rw [List.mem_singleton.1 hf]
  rfl

end Coverage.Instrument
