import Coverage.Proofs.Instrument.Embedded
import Coverage.Proofs.Text.Lines

/-!
# The registration in a syntax tree

A program that starts with the registration of a record is told by the variables of its first
function (`embedded?_of_shows`). `ShowsRegistration` says what the tree of the program has to show
for this, and `shows_registrationNodes` that the nodes over the text of a registration do.
-/

namespace Coverage.Instrument

open Coverage.Json (Value quote)
open Coverage.Script (Node Kind Role)

/-! ### What is read back -/

/-- The variables that the registration declares, with their values. -/
def registrationVariables (path hash : String) (data : Value) (o : Options) :
    List (String × String) :=
  [("path", quote path), ("hash", quote hash), ("global", globalText o),
    ("gcv", quote o.coverageVariable),
    ("coverageData", if o.compact then data.compact else data.pretty),
    ("coverage", "global[gcv] || (global[gcv] = \x7b\x7d)"), ("actualCoverage", "coverage[path]")]

/-- A node declares a variable with a value. A value that starts with a brace is an object. -/
structure Declares (src : List Char) (declarator : Node) (entry : String × String) : Prop where
  name : ∃ n, declarator.child? .name = some n ∧ n.text src = entry.1.toList
  value : ∃ n, declarator.child? .value = some n ∧ n.text src = entry.2.toList ∧
    (entry.2.toList.head? = some '\x7b' → n.kind = .object)

/-- The first function of a program declares these variables. -/
def ShowsRegistration (src : List Char) (program : Node) (declared : List (String × String)) :
    Prop :=
  ∃ function body,
    (program.namedChildren.filter fun n => n.kind = .functionDeclaration).head? = some function ∧
    function.child? .body = some body ∧
    List.Forall₂ (Declares src)
      ((body.namedChildren.filter fun n => n.kind = .variableDeclaration).flatMap
        Node.namedChildren) declared

theorem head?_toList_data (r : FileRecord) (compact : Bool) :
    (if compact then (coverageData r).compact else (coverageData r).pretty).toList.head? =
      some '\x7b' := by
  rw [coverageData_eq, coverageFields]
  cases compact
  · simp [Value.pretty, Value.prettyAt]
  · simp [Value.compact]

variable {src : List Char} {r : FileRecord} {declarator : Node} {name value : String}

theorem dataValue?_of_ne (h : Declares src declarator (name, value))
    (hne : name ≠ "coverageData") : dataValue? src declarator = none := by
  obtain ⟨n, hname, htext⟩ := h.name
  obtain ⟨v, hvalue, -, -⟩ := h.value
  have hother : ¬ n.text src = "coverageData".toList := by
    rw [htext, String.toList_inj]
    exact hne
  simp only [dataValue?, hname, hvalue, hother, false_and, if_false, bind, Option.bind]
  rfl

theorem exists_dataValue? (h : Declares src declarator ("coverageData", value))
    (hbrace : value.toList.head? = some '\x7b') :
    ∃ v, dataValue? src declarator = some v ∧ v.text src = value.toList := by
  obtain ⟨n, hname, htext⟩ := h.name
  obtain ⟨v, hvalue, hv, hobject⟩ := h.value
  refine ⟨v, ?_, hv⟩
  simp only [dataValue?, hname, hvalue, htext, hobject hbrace, and_self, if_true, bind, Option.bind]
  rfl

/-- The coverage object that a registration declares is found. -/
theorem embedded?_of_shows (hr : Embeddable r) {program : Node} {path : String} {o : Options}
    (h : ShowsRegistration src program
      (registrationVariables path (dataHash r) (coverageData r) o)) :
    embedded? src program = some ⟨r, dataHash r⟩ := by
  obtain ⟨function, body, hfunction, hbody, hdeclared⟩ := h
  have hin : embeddedIn? src function = some ⟨r, dataHash r⟩ := by
    generalize hds : (body.namedChildren.filter fun n => n.kind = .variableDeclaration).flatMap
      Node.namedChildren = ds at hdeclared
    rcases hdeclared with _ | ⟨hpath, _ | ⟨hhash, _ | ⟨hglobal, _ | ⟨hgcv, _ | ⟨hdata, -⟩⟩⟩⟩⟩
    obtain ⟨v, hv, htext⟩ := exists_dataValue? hdata (head?_toList_data r o.compact)
    have hread : Embedded.ofText? (String.ofList (v.text src)) = some ⟨r, dataHash r⟩ := by
      rw [htext, String.ofList_toList]
      refine Embedded.ofText?_data hr ?_
      cases o.compact
      · exact .inr rfl
      · exact .inl rfl
    simp only [embeddedIn?, hbody, hds, List.findSome?_cons,
      dataValue?_of_ne hpath (by decide), dataValue?_of_ne hhash (by decide),
      dataValue?_of_ne hglobal (by decide), dataValue?_of_ne hgcv (by decide), hv, hread, bind,
      Option.bind]
  rw [embedded?]
  cases hfunctions : program.namedChildren.filter fun n => n.kind = .functionDeclaration with
  | nil =>
    rw [hfunctions] at hfunction
    cases hfunction
  | cons f rest =>
    rw [hfunctions, List.head?_cons, Option.some.injEq] at hfunction
    rw [List.findSome?_cons, hfunction, hin]

/-- The text of the registration of a record. -/
def registrationText (o : Options) (path : String) (r : FileRecord) : String :=
  registration (accessorName path) path (dataHash r) (coverageData r) o

/-! ### Nodes over a text -/

/-- A node over a part of a text, given with all that stands before it. -/
def nodeOver (kind : Kind) (role : Option Role) (before part : List Char)
    (children : List Node) : Node :=
  ⟨kind, role, Text.byteLength before, Text.byteLength (before ++ part), children⟩

theorem text_nodeOver {kind : Kind} {role : Option Role} {before part behind src : List Char}
    {children : List Node} (h : src = before ++ (part ++ behind)) :
    (nodeOver kind role before part children).text src = part := by
  rw [Node.text, nodeOver, Text.slice, h, Text.dropBytes_byteLength, Text.byteLength_append,
    Nat.add_sub_cancel_left, Text.takeBytes_byteLength]

/-- The statement that declares a variable. -/
def variableLine (e : String × String) : List Char :=
  "var ".toList ++ (e.1.toList ++ (" = ".toList ++ (e.2.toList ++ [';'])))

/-- The node of a statement that declares a variable with a value of the given kind. -/
def variableNode (before : List Char) (e : String × String) (kind : Kind) : Node :=
  let first := before ++ "var ".toList
  let second := first ++ e.1.toList ++ " = ".toList
  nodeOver .variableDeclaration none before (variableLine e)
    [nodeOver (.token "var") none before "var".toList [],
      nodeOver .variableDeclarator none first (e.1.toList ++ " = ".toList ++ e.2.toList)
        [nodeOver .identifier (some .name) first e.1.toList [],
          nodeOver (.token "=") none (first ++ e.1.toList ++ [' ']) ['='] [],
          nodeOver kind (some .value) second e.2.toList []],
      nodeOver (.token ";") none (second ++ e.2.toList) [';'] []]

/-- The nodes of statements that declare variables, one behind the other. -/
def variableNodes : List Char → List ((String × String) × Kind) → List Node
  | _, [] => []
  | before, (e, kind) :: rest =>
    variableNode before e kind :: variableNodes (before ++ variableLine e) rest

/-- A value that starts with a brace is an object. -/
def HasKind (e : (String × String) × Kind) : Prop :=
  e.1.2.toList.head? = some '\x7b' → e.2 = .object

theorem declares_variableNodes {src behind : List Char} {es : List ((String × String) × Kind)}
    (hes : ∀ e ∈ es, HasKind e) (before : List Char)
    (h : src = before ++ (es.flatMap (fun e => variableLine e.1) ++ behind)) :
    List.Forall₂ (Declares src) ((variableNodes before es).flatMap Node.namedChildren)
      (es.map (·.1)) := by
  induction es generalizing before with
  | nil => exact .nil
  | cons e es ih =>
    obtain ⟨⟨name, value⟩, kind⟩ := e
    obtain ⟨he, hes⟩ := List.forall_mem_cons.1 hes
    have hname : src = before ++ "var ".toList ++ (name.toList ++ (" = ".toList ++
        (value.toList ++ ([';'] ++ (es.flatMap (fun e => variableLine e.1) ++ behind))))) := by
      simp [h, variableLine]
    have hvalue : src = before ++ "var ".toList ++ name.toList ++ " = ".toList ++
        (value.toList ++ ([';'] ++ (es.flatMap (fun e => variableLine e.1) ++ behind))) := by
      simp [h, variableLine]
    have hrest : src = before ++ variableLine (name, value) ++
        (es.flatMap (fun e => variableLine e.1) ++ behind) := by
      simp [h]
    refine .cons ⟨⟨_, rfl, ?_⟩, ⟨_, rfl, ?_, he⟩⟩ (ih hes _ hrest)
    · exact text_nodeOver hname
    · exact text_nodeOver hvalue

theorem kind_of_mem_variableNodes {n : Node} {es : List ((String × String) × Kind)}
    {before : List Char} (h : n ∈ variableNodes before es) : n.kind = .variableDeclaration := by
  induction es generalizing before with
  | nil => cases h
  | cons e es ih =>
    rcases List.mem_cons.1 h with rfl | h
    · rfl
    · exact ih h

/-- The variables that are declared in front of the look-up of the coverage object, with the kinds
of their values. -/
def leadingVariables (path hash : String) (data : Value) (o : Options) :
    List ((String × String) × Kind) :=
  [(("path", quote path), .string), (("hash", quote hash), .string),
    (("global", globalText o), .callExpression), (("gcv", quote o.coverageVariable), .string),
    (("coverageData", if o.compact then data.compact else data.pretty), .object),
    (("coverage", "global[gcv] || (global[gcv] = \x7b\x7d)"), .binaryExpression)]

theorem hasKind_leadingVariables {o : Options} (hglobal : o.globalScopeFunction = true)
    (path : String) (r : FileRecord) :
    ∀ e ∈ leadingVariables path (dataHash r) (coverageData r) o, HasKind e := by
  simp [leadingVariables, HasKind, globalText, hglobal, quote]

/-- The statement that looks the coverage object up. -/
def lookupText : List Char :=
  "if (!coverage[path] || coverage[path].hash !== hash) \x7b".toList ++
    ("coverage[path] = coverageData;".toList ++ "\x7d".toList)

/-- The variable that is declared behind it. -/
def actualVariable : String × String := ("actualCoverage", "coverage[path]")

/-- The statement that replaces the accessor. -/
def replaceText (accessor : List Char) : List Char :=
  accessor ++ " = function () \x7b return actualCoverage; \x7d;".toList

/-- The statements of the registration in one line. -/
def statementsText (accessor : List Char) (leading : List ((String × String) × Kind)) : List Char :=
  leading.flatMap (fun e => variableLine e.1) ++ (lookupText ++ (variableLine actualVariable ++
    (replaceText accessor ++ "return actualCoverage;".toList)))

/-- The nodes over the statements of the registration. Where no variable is declared, the nodes
within a statement are left out. -/
def statementNodes (before accessor : List Char) (leading : List ((String × String) × Kind)) :
    List Node :=
  let lookup := before ++ leading.flatMap fun e => variableLine e.1
  let actual := lookup ++ lookupText
  let replace := actual ++ variableLine actualVariable
  variableNodes before leading ++
    [nodeOver .ifStatement none lookup lookupText [],
      variableNode actual actualVariable .subscriptExpression,
      nodeOver .expressionStatement none replace (replaceText accessor) [],
      nodeOver .returnStatement none (replace ++ replaceText accessor)
        "return actualCoverage;".toList []]

theorem declares_statementNodes {src behind : List Char} {accessor : List Char}
    {leading : List ((String × String) × Kind)} (hkinds : ∀ e ∈ leading, HasKind e)
    (before : List Char) (h : src = before ++ (statementsText accessor leading ++ behind)) :
    List.Forall₂ (Declares src)
      (((statementNodes before accessor leading).filter fun n =>
        n.kind = .variableDeclaration).flatMap Node.namedChildren)
      (leading.map (·.1) ++ [actualVariable]) := by
  have hleading : (variableNodes before leading).filter (fun n => n.kind = .variableDeclaration) =
      variableNodes before leading :=
    List.filter_eq_self.2 fun n hn => decide_eq_true (kind_of_mem_variableNodes hn)
  have hfirst : src = before ++ (leading.flatMap (fun e => variableLine e.1) ++ (lookupText ++
      (variableLine actualVariable ++ (replaceText accessor ++
        "return actualCoverage;".toList) ++ behind))) := by
    simp [h, statementsText]
  have hactual : src = before ++ leading.flatMap (fun e => variableLine e.1) ++ lookupText ++
      ([(actualVariable, Kind.subscriptExpression)].flatMap (fun e => variableLine e.1) ++
        (replaceText accessor ++ "return actualCoverage;".toList ++ behind)) := by
    simp [h, statementsText]
  have hkind : ∀ e ∈ [(actualVariable, Kind.subscriptExpression)], HasKind e := by
    simp [HasKind, actualVariable]
  have hsecond := declares_variableNodes hkind _ hactual
  rw [statementNodes, List.filter_append, hleading, List.flatMap_append]
  exact List.rel_append (declares_variableNodes hkinds before hfirst) hsecond

theorem isNamed_of_mem_statementNodes {n : Node} {before accessor : List Char}
    {leading : List ((String × String) × Kind)} (h : n ∈ statementNodes before accessor leading) :
    n.isNamed = true := by
  rcases List.mem_append.1 h with h | h
  · rw [Node.isNamed, kind_of_mem_variableNodes h]
  · simp only [List.mem_cons, List.not_mem_nil, or_false] at h
    rcases h with rfl | rfl | rfl | rfl <;> rfl

/-- The node over the body of the registration. -/
def blockNode (before accessor : List Char) (leading : List ((String × String) × Kind)) : Node :=
  nodeOver .statementBlock (some .body) before
    ('\x7b' :: statementsText accessor leading ++ ['\x7d'])
    (nodeOver (.token "\x7b") none before ['\x7b'] [] ::
      statementNodes (before ++ ['\x7b']) accessor leading ++
        [nodeOver (.token "\x7d") none (before ++ '\x7b' :: statementsText accessor leading)
          ['\x7d'] []])

theorem namedChildren_blockNode (before accessor : List Char)
    (leading : List ((String × String) × Kind)) :
    (blockNode before accessor leading).namedChildren =
      statementNodes (before ++ ['\x7b']) accessor leading := by
  have hall : (statementNodes (before ++ ['\x7b']) accessor leading).filter Node.isNamed =
      statementNodes (before ++ ['\x7b']) accessor leading :=
    List.filter_eq_self.2 fun _ => isNamed_of_mem_statementNodes
  rw [Node.namedChildren, blockNode, nodeOver]
  dsimp only
  rw [List.cons_append, List.filter_cons_of_neg Bool.false_ne_true, List.filter_append, hall]
  exact List.append_nil _

/-- The nodes over the registration of a record in one line: its function and the first call. -/
def registrationNodes (before accessor : List Char) (leading : List ((String × String) × Kind)) :
    List Node :=
  let name := before ++ "function ".toList
  let body := name ++ accessor ++ "() ".toList
  let block := blockNode body accessor leading
  let text := '\x7b' :: statementsText accessor leading ++ ['\x7d']
  [nodeOver .functionDeclaration none before ("function ".toList ++ accessor ++ "() ".toList ++ text)
      [nodeOver (.token "function") none before "function".toList [],
        nodeOver .identifier (some .name) name accessor [],
        nodeOver .formalParameters (some .parameters) (name ++ accessor) "()".toList [], block],
    nodeOver .expressionStatement none (body ++ text) (accessor ++ "();".toList) []]

theorem toList_join (l : List String) : (String.join l).toList = l.flatMap String.toList := by
  have hrun : ∀ s : String, (l.foldl (· ++ ·) s).toList = s.toList ++ l.flatMap String.toList := by
    induction l with
    | nil => simp
    | cons t l ih =>
      intro s
      rw [List.foldl_cons, ih, String.toList_append, List.append_assoc, List.flatMap_cons]
  exact hrun ""

theorem toList_variable (head name value : String)
    (h : head.toList = "var ".toList ++ (name.toList ++ " = ".toList)) :
    (head ++ value ++ ";").toList = variableLine (name, value) := by
  rw [String.toList_append, String.toList_append, h, variableLine]
  simp

/-- The statements of the registration are those that its nodes are over. -/
theorem flatMap_registrationLines (accessor path hash : String) (data : Value) (o : Options) :
    (registrationLines accessor path hash data o).flatMap String.toList =
      statementsText accessor.toList (leadingVariables path hash data o) := by
  have hpath := toList_variable "var path = " "path" (quote path) (by decide)
  have hhash := toList_variable "var hash = " "hash" (quote hash) (by decide)
  have hglobal := toList_variable "var global = " "global" (globalText o) (by decide)
  have hgcv := toList_variable "var gcv = " "gcv" (quote o.coverageVariable) (by decide)
  have hdata := toList_variable "var coverageData = " "coverageData"
    (if o.compact then data.compact else data.pretty) (by decide)
  have hcoverage : "var coverage = global[gcv] || (global[gcv] = \x7b\x7d);".toList =
      variableLine ("coverage", "global[gcv] || (global[gcv] = \x7b\x7d)") := by decide
  have hactual : "var actualCoverage = coverage[path];".toList = variableLine actualVariable := by
    decide
  have hreplace : (accessor ++ " = function () \x7b return actualCoverage; \x7d;").toList =
      replaceText accessor.toList := String.toList_append
  simp only [registrationLines, List.flatMap_cons, List.flatMap_nil, hpath, hhash, hglobal, hgcv,
    hdata, hcoverage, hactual, hreplace, List.append_nil]
  unfold statementsText leadingVariables lookupText
  simp only [List.flatMap_cons, List.flatMap_nil, List.append_assoc, List.append_nil]

theorem toList_registration {o : Options} (hcompact : o.compact = true)
    (accessor path hash : String) (data : Value) :
    (registration accessor path hash data o).toList =
      "function ".toList ++ accessor.toList ++ "() ".toList ++ ['\x7b'] ++
        (statementsText accessor.toList (leadingVariables path hash data o) ++
          ('\x7d' :: accessor.toList ++ "();".toList)) := by
  have hopen : "() \x7b".toList = "() ".toList ++ ['\x7b'] := by decide
  have hclose : "\x7d".toList = ['\x7d'] := by decide
  rw [← flatMap_registrationLines, ← toList_join]
  unfold registration
  simp only [hcompact, if_true, String.toList_append, hopen, hclose, List.append_assoc,
    List.cons_append, List.nil_append]

/-- The nodes over a registration show it. -/
theorem shows_registrationNodes {o : Options} (hcompact : o.compact = true)
    (hglobal : o.globalScopeFunction = true) {path : String} {r : FileRecord}
    {src before behind : List Char}
    (h : src = before ++ ((registrationText o path r).toList ++ behind)) (start stop : Nat)
    (others : List Node) :
    ShowsRegistration src
      ⟨.program, none, start, stop,
        registrationNodes before (accessorName path).toList
          (leadingVariables path (dataHash r) (coverageData r) o) ++ others⟩
      (registrationVariables path (dataHash r) (coverageData r) o) := by
  have hsrc : src = before ++ "function ".toList ++ (accessorName path).toList ++ "() ".toList ++
      ['\x7b'] ++ (statementsText (accessorName path).toList
        (leadingVariables path (dataHash r) (coverageData r) o) ++
        ('\x7d' :: (accessorName path).toList ++ "();".toList ++ behind)) := by
    rw [h, registrationText, toList_registration hcompact]
    simp only [List.append_assoc, List.cons_append, List.nil_append]
  have hdeclares := declares_statementNodes (hasKind_leadingVariables hglobal path r) _ hsrc
  refine ⟨_, _, rfl, rfl, ?_⟩
  rw [namedChildren_blockNode]
  exact hdeclares

end Coverage.Instrument
