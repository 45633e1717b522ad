import Coverage.Proofs.Instrument.Covering

/-!
# The walk finds every function and every branch

Entering a node in a slot that it may stand in extends the tally by that of its link, apart from
outcomes that are to come, and gives a plan that covers its children (`serves_enter`). So by
induction over the tree the walk numbers what there is to find along all links, each once and in the
order of the text (`holds_walk`, `numbers_walkProgram`).
-/

namespace Coverage.Instrument

open Coverage.Script (Node Kind Role)
open Coverage.Script.Node (takesDefault)

/-! ### Entering a node -/

/-- A plan covers the children of a node and adds to a tally the outcomes that are missing. -/
structure Plan.Suits (s : Setting) (n : Node) (t goal : Tally) (plan : Plan) : Prop where
  covers : plan.Covers s n n.children
  known : t.Knows plan.branches
  credit : t.credit (plan.outcomes s n.children) = goal

/-- A node has been entered: its own tally is there, except for outcomes that are to come. -/
def Serves (s : Setting) (n : Node) (goal : Tally) (plan : Plan) (p : Progress) : Prop :=
  ∃ t, p.Holds s t ∧ plan.Suits s n t goal

section Nodes

open Recording

variable {s : Setting} {m n : Node} {t : Tally}

/-- A plan that adds no outcomes. -/
theorem serves_plan {plan : Plan} (hcovers : plan.Covers s n n.children)
    (hbranches : plan.branches = []) : Triple (·.Holds s t) (pure plan) (Serves s n t) := by
  refine .pure fun p h => ⟨t, h, hcovers, ?_, ?_⟩
  · rw [hbranches]
    nofun
  · rw [Plan.outcomes_eq_nil hbranches]
    rfl

/-- A plan for a node at which nothing is to be found. -/
theorem serves_plain {plan : Plan} (hplain : n.kind.isPlain = true)
    (hcovers : plan.Covers s n n.children) (hbranches : plan.branches = []) :
    Triple (·.Holds s t) (pure plan) (Serves s n (t ++ s.own n)) := by
  rw [Setting.own_of_plain hplain, Tally.append_empty]
  exact serves_plan hcovers hbranches

theorem serves_parts (hn : n.Grammatical) (hplain : n.kind.isPlain = true) :
    Triple (·.Holds s t) (pure .parts) (Serves s n (t ++ s.own n)) := by
  apply serves_plain hplain
  · exact covers_parts (.of_isPlain hplain) fun c hc => hn.child hc
  · rfl

theorem serves_declarators (hn : n.Grammatical) (hplain : n.kind.isPlain = true)
    (offset : Option Nat) :
    Triple (·.Holds s t) (pure (.declarators offset)) (Serves s n (t ++ s.own n)) := by
  apply serves_plain hplain
  · exact covers_declarators (.of_isPlain hplain) (fun c hc => hn.child hc) offset
  · rfl

theorem serves_loop (hn : n.Grammatical) (hplain : n.kind.isPlain = true)
    (hbody : n.kind.hasStatementBody = true) :
    Triple (·.Holds s t) (pure .loop) (Serves s n (t ++ s.own n)) := by
  apply serves_plain hplain
  · exact covers_loop (.of_isPlain hplain) (fun c hc => hn.child hc) (hn.own.body hbody)
  · rfl

theorem serves_statements (hn : n.Grammatical) (hkind : n.kind = .statementBlock)
    (directives : Bool) :
    Triple (·.Holds s t) (pure (.statements directives)) (Serves s n (t ++ s.own n)) := by
  have hplain : n.kind.isPlain = true := by rw [hkind]; rfl
  apply serves_plain hplain
  · exact covers_statements (.of_isPlain hplain) (fun c hc => hn.child hc)
      (hn.own.statements (.inr hkind)) directives
  · rfl

theorem serves_bare (hn : n.Grammatical) (hbare : n.kind.isBare = true) :
    Triple (·.Holds s t) (pure Plan.nothing) (Serves s n (t ++ s.own n)) := by
  have hplain := Kind.isPlain_of_isBare hbare
  refine serves_plain hplain (covers_nothing fun c hc => ?_) rfl
  exact (Uniform.of_isPlain hplain).idle (hn.child hc) (hn.own.bare hbare c hc)

/-- A name that is not walked is bare. -/
theorem covers_function (hn : n.Grammatical) (hkind : n.kind.isFunction = true) (id : Id)
    {computed : Bool}
    (hcomputed : ((n.child? .name).any fun m => m.kind = .computedName) = computed) :
    (Plan.roles ((if computed then [(.name, .part)] else []) ++
      [(.parameters, .part), (.parameter, .part), (.body, .functionBody id)])).Covers s n
        n.children := by
  have hordinary := Ordinary.of_isFunction hkind
  have hroles := Kind.roles?_of_isFunction hkind
  refine covers_of_roles? hn hroles ?_ ?_ ?_
  · cases computed <;> simp
  · intro c hc hdecorates e he hrole
    have hslot : e.2 = .part ∨ e.2 = .functionBody id := by
      cases computed <;> simp at he <;> grind
    rcases hslot with hslot | hslot <;> rw [hslot] <;> exact hordinary.takes hdecorates rfl rfl rfl
  · intro c hc role hmem hrole hnone
    have hname : role = .name := by
      cases computed <;> simp at hmem hnone <;> grind
    have hfalse : computed = false := by
      cases computed with
      | false => rfl
      | true => exact absurd hname.symm (hnone (.name, .part) List.mem_cons_self)
    rw [hn.own.child?_eq (by rw [hroles]; rfl) hc (hname ▸ hrole), hfalse] at hcomputed
    have hplain := hn.own.name hkind c hc (hname ▸ hrole)
    exact hordinary.idle (hn.child hc) (hplain.resolve_right (of_decide_eq_false hcomputed))

theorem lt_of_small {l k : Nat} (h : l + (k + 1) ≤ 2 ^ 32) : l < 2 ^ 32 := by omega

/-- A function is numbered, and what is in it is left to its parts. -/
theorem serves_function (hn : n.Grammatical) (hkind : n.kind.isFunction = true)
    (hsmall : (t ++ s.own n).Small) :
    Triple (·.Holds s t) (enterFunction s n) (Serves s n (t ++ s.own n)) := by
  obtain ⟨body, hbody⟩ := hn.own.function hkind
  have hlt : t.functions.length < 2 ^ 32 := by
    have hlength := hsmall.functions
    rw [Setting.own_of_function hkind hbody, Tally.functions_append, List.length_append] at hlength
    exact lt_of_small hlength
  rw [Setting.own_of_function hkind hbody, enterFunction, hbody]
  refine (holds_newFunction hlt n body fun _ => rfl).bind fun id => ?_
  apply serves_plan
  · exact covers_function hn hkind id rfl
  · split <;> rfl

theorem length_lt_of_small {b : BranchEntry} (h : (t ++ ⟨[], [b]⟩).Small) :
    t.branches.length < 2 ^ 32 := by
  have hlength := h.branches
  rw [Tally.branches_append, List.length_append] at hlength
  exact lt_of_small hlength

/-- A branch whose outcomes are all to come. -/
theorem serves_branch {kind : BranchKind} {ranges : List Location} {plan : Id → Plan}
    (hsmall : (t ++ ⟨[], [s.branchEntry kind n ranges]⟩).Small)
    (hcovers : ∀ branch, (plan branch).Covers s n n.children)
    (hbranches : ∀ branch, ∀ id ∈ (plan branch).branches, id ∈ [branch])
    (houtcomes : ∀ branch,
      (plan branch).outcomes s n.children = ranges.map fun r => (branch, r)) :
    Triple (·.Holds s t) (do return plan (← newBranch kind (s.range n)))
      (Serves s n (t ++ ⟨[], [s.branchEntry kind n ranges]⟩)) := by
  have hlt := length_lt_of_small hsmall
  refine (holds_newBranch hlt kind n).bind fun branch => .of_and fun hid => ?_
  have hknown : (t ++ ⟨[], [s.branchEntry kind n []]⟩).Knows (plan branch).branches :=
    (Tally.Knows.last hid _).mono (hbranches branch)
  refine .pure fun p h => ⟨_, h, hcovers branch, hknown, ?_⟩
  rw [houtcomes branch]
  exact Tally.credit_last hid _ ranges

theorem serves_switch (hn : n.Grammatical) (hkind : n.kind = .switchStatement)
    (hsmall : (t ++ s.own n).Small) :
    Triple (·.Holds s t) (enterSwitch s n) (Serves s n (t ++ s.own n)) := by
  have hordinary : Ordinary n := .of_kind hkind (by decide) rfl
  have hroles : ∀ branch, n.kind.roles? =
      some ([(Role.value, Slot.part), (.body, .cases branch)].map (·.1)) := by
    rw [hkind]
    exact fun _ => rfl
  rw [Setting.own_of_branch (by rw [hkind]; rfl) (by rw [Setting.branchesOf, hkind])] at hsmall ⊢
  apply serves_branch hsmall
  · intro branch
    apply hordinary.covers_roles hn (hroles branch)
    · simp [Slot.isOperand, Slot.pattern?]
    · intro c hc
      rw [List.forall_mem_cons, List.forall_mem_singleton]
      exact ⟨fun _ => rfl, fun hrole => decide_eq_true (hn.own.cases hkind c hc hrole)⟩
  · intro branch id hid
    simpa [Plan.branches, Slot.branches] using hid
  · intro branch
    rw [casesOf, List.map_flatMap, Node.childrenIn]
    apply outcomes_of_branch hn (hroles branch)
    intro c
    cases hrole : c.role with
    | none => simp [slotFor, hrole]
    | some role => cases role <;> simp [slotFor, hrole, Slot.outcomes]

theorem serves_conditional (hn : n.Grammatical) (hkind : n.kind = .ternaryExpression)
    (hsmall : (t ++ s.own n).Small) :
    Triple (·.Holds s t) (enterConditional s n) (Serves s n (t ++ s.own n)) := by
  have hordinary : Ordinary n := .of_kind hkind (by decide) rfl
  have hroles : ∀ branch, n.kind.roles? = some ([(Role.condition, Slot.part),
      (.consequence, .outcome branch), (.alternative, .outcome branch)].map (·.1)) := by
    rw [hkind]
    exact fun _ => rfl
  rw [Setting.own_of_branch (by rw [hkind]; rfl) (by rw [Setting.branchesOf, hkind])] at hsmall ⊢
  apply serves_branch hsmall
  · intro branch
    apply hordinary.covers_roles hn (hroles branch)
    · simp [Slot.isOperand, Slot.pattern?]
    · simp [Slot.admits]
  · intro branch id hid
    simpa [Plan.branches, Slot.branches] using hid
  · intro branch
    rw [List.map_eq_flatMap (f := s.range)]
    apply outcomes_of_branch hn (hroles branch)
    intro c
    cases hrole : c.role with
    | none => simp [slotFor, hrole]
    | some role => cases role <;> simp [slotFor, hrole, Slot.outcomes]

/-- The operands of a chain are its outcomes, and those of a chain within it are too. -/
theorem covers_operands (hn : n.Grammatical) (hlogical : n.isLogical = true) (branch : Id) :
    (operands branch).Covers s n n.children ∧ (operands branch).outcomes s n.children =
      (n.chainOperands.map s.range).map fun r => (branch, r) := by
  have hkind := Node.kind_of_isLogical hlogical
  have hroles : n.kind.roles? = some
      ([(Role.left, Slot.operand branch), (.right, .operand branch)].map (·.1)) := by
    rw [hkind]
    rfl
  constructor
  · refine covers_of_all_roles hn hroles fun c hc hdecorates => ?_
    have htakes : (Slot.operand branch).Takes s n c := by
      refine ⟨hdecorates, hlogical.symm, ?_, rfl⟩
      rw [Node.takesDefault_of_isLogical hlogical]
      rfl
    rw [List.forall_mem_cons, List.forall_mem_singleton]
    exact ⟨fun _ => htakes, fun _ => htakes⟩
  · rw [Node.chainOperands_of_logical hlogical, Node.chainOperandsIn_eq, List.map_flatMap]
    apply outcomes_of_branch hn hroles
    intro c
    cases hrole : c.role with
    | none => simp [slotFor, hrole]
    | some role => cases role <;> simp [slotFor, hrole, Slot.outcomes]

theorem serves_logical (hn : n.Grammatical) (hlogical : n.isLogical = true)
    (hsmall : (t ++ s.own n).Small) :
    Triple (·.Holds s t) (enterLogical s n) (Serves s n (t ++ s.own n)) := by
  have hkind := Node.kind_of_isLogical hlogical
  have hbranches : s.branchesOf n = [s.branchEntry .logical n (n.chainOperands.map s.range)] := by
    rw [Setting.branchesOf, hkind]
    exact if_pos hlogical
  rw [Setting.own_of_branch (by rw [hkind]; rfl) hbranches] at hsmall ⊢
  apply serves_branch hsmall
  · exact fun branch => (covers_operands hn hlogical branch).1
  · intro branch id hid
    simpa [operands, Plan.branches, Slot.branches] using hid
  · exact fun branch => (covers_operands hn hlogical branch).2

theorem serves_pattern (hn : n.Grammatical)
    (hkind : n.kind = .assignmentPattern ∨ n.kind = .objectAssignmentPattern) :
    Triple (·.Holds s t) (pure (Plan.roles [(.left, .part), (.right, .defaultValue (s.range n))]))
      (Serves s n (t ++ s.own n)) := by
  have hroles : n.kind.roles? = some [.left, .right] := by
    rcases hkind with hkind | hkind <;> rw [hkind] <;> rfl
  have hpattern : n.kind.hasDefault = true := by
    rcases hkind with hkind | hkind <;> rw [hkind] <;> rfl
  have hlogical : n.isLogical = false := by
    rcases hkind with hkind | hkind <;> rw [Node.isLogical, hkind] <;> rfl
  have hfunction : n.kind.isFunction = false := by
    rcases hkind with hkind | hkind <;> rw [hkind] <;> rfl
  have hbranches : s.branchesOf n = [] := by
    rcases hkind with hkind | hkind <;> rw [Setting.branchesOf, hkind]
  have hown : s.own n = ∅ := Setting.own_of_branch hfunction hbranches
  rw [hown, Tally.append_empty]
  refine serves_plan (covers_of_all_roles hn hroles fun c hc hdecorates => ?_) rfl
  rw [List.forall_mem_cons, List.forall_mem_singleton]
  refine ⟨fun hrole => ⟨hdecorates, hlogical.symm, ?_, rfl⟩,
    fun hrole => ⟨hdecorates, hlogical.symm, ?_, rfl⟩⟩
  · simp [takesDefault, hrole, Slot.pattern?]
  · simp [takesDefault, hrole, hpattern, Slot.pattern?]

/-- Each case is one outcome of its `switch`. -/
theorem serves_cases (hn : n.Grammatical) (hkind : n.kind = .switchBody) {branch : Id}
    (hbranch : t.Knows [branch]) :
    Triple (·.Holds s t) (pure (Plan.cases branch))
      (Serves s n (t.credit ((Slot.cases branch).outcomes s n) ++ s.own n)) := by
  have hplain : n.kind.isPlain = true := by rw [hkind]; rfl
  rw [Setting.own_of_plain hplain, Tally.append_empty]
  refine .pure fun p h => ⟨t, h, ?_, ?_, ?_⟩
  · exact covers_cases (.of_isPlain hplain) (fun c hc => hn.child hc) (hn.own.case hkind) branch
  · exact hbranch
  · rw [outcomes_cases]
    rfl

end Nodes

section Unhinted

open Recording

variable {s : Setting} {m n : Node} {t : Tally} (hhints : ∀ k, s.hintAt k = none)

include hhints

theorem leavesOut_eq_false : s.leavesOut n = false := by
  rw [Setting.leavesOut, Setting.hint, hhints]
  rfl

/-- Both arms of an `if` are outcomes from the start. -/
theorem serves_if (hn : n.Grammatical) (hkind : n.kind = .ifStatement)
    (hsmall : (t ++ s.own n).Small) :
    Triple (·.Holds s t) (enterIf s n) (Serves s n (t ++ s.own n)) := by
  have hhint : s.hint n = none := hhints _
  have hordinary : Ordinary n := .of_kind hkind (by decide) rfl
  have hcovers : ∀ first second, (Plan.roles [(.condition, .part),
      (.consequence, .arm (some first)), (.alternative, .elseClause second)]).Covers s n
        n.children := by
    intro first second
    apply hordinary.covers_roles hn
    · rw [hkind]; rfl
    · simp [Slot.isOperand, Slot.pattern?]
    · intro c hc
      rw [List.forall_mem_cons, List.forall_mem_cons, List.forall_mem_singleton]
      refine ⟨fun _ => rfl, fun hrole => ?_, fun hrole => ?_⟩
      · rw [Slot.admits, hn.own.consequence hkind c hc hrole]
        rfl
      · exact decide_eq_true (hn.own.clause hkind c hc hrole)
  rw [Setting.own_of_branch (by rw [hkind]; rfl) (by rw [Setting.branchesOf, hkind])] at hsmall ⊢
  rw [enterIf]
  simp only [hhint, reduceCtorEq, if_false]
  refine (holds_newBranch (length_lt_of_small hsmall) _ n).bind fun branch => .of_and fun hid => ?_
  have hknown := Tally.Knows.last hid (s.branchEntry .ifElse n [])
  refine (holds_newOutcome hknown _).bind fun first => ?_
  refine (holds_newOutcome (hknown.credit _) _).bind fun second => ?_
  have hgoal : ∀ r r', ((t ++ ⟨[], [s.branchEntry .ifElse n []]⟩).credit [(branch, r)]).credit
      [(branch, r')] = t ++ ⟨[], [s.branchEntry .ifElse n [r, r']]⟩ := by
    intro r r'
    rw [← Tally.credit_append]
    exact Tally.credit_last hid _ [r, r']
  have hplan := serves_plan (t := t ++ ⟨[], [s.branchEntry .ifElse n [s.range n, s.elseRange n]]⟩)
    (hcovers first second) rfl
  rw [hgoal]
  refine .ite (fun _ => ?_) fun _ => ?_
  · exact (holds_mark _).bind fun _ => hplan
  · exact hplan

theorem serves_construct (hn : n.Grammatical)
    (hkinds : n.kind.isStatement = true ∨ n.kind.isBare = true) (hsmall : (t ++ s.own n).Small)
    (offset : Nat) :
    Triple (·.Holds s t) (enterConstruct s offset n) (Serves s n (t ++ s.own n)) := by
  rw [enterConstruct]
  split
  case h_1 hkind => exact serves_if hhints hn hkind hsmall
  case h_2 hkind => exact serves_switch hn hkind hsmall
  case h_3 hkind =>
    have hordinary : Ordinary n := .of_kind hkind (by decide) rfl
    apply serves_plain (by rw [hkind]; rfl)
    · apply hordinary.covers_roles hn (by rw [hkind]; rfl)
      · simp [Slot.isOperand, Slot.pattern?]
      · intro c hc
        rw [List.forall_mem_singleton]
        intro hrole
        rw [Slot.admits, hn.own.body (by rw [hkind]; rfl) c hc hrole]
        rfl
    · rfl
  case h_9 hkind => exact serves_declarators hn (by rw [hkind]; rfl) _
  case h_10 hkind => exact serves_declarators hn (by rw [hkind]; rfl) _
  case h_11 hkind =>
    have hplain : n.kind.isPlain = true := by rw [hkind]; rfl
    apply serves_plain hplain
    · exact covers_exports (.of_isPlain hplain) (fun c hc => hn.child hc) offset
    · rfl
  case h_12 hkind => exact serves_statements hn hkind false
  case h_13 hif hswitch _ _ _ _ _ _ _ _ _ _ =>
    refine .ite (fun hfunction => serves_function hn hfunction hsmall) fun hfunction => ?_
    exact serves_parts hn (Kind.isPlain_of_isStatement hkinds hfunction hif hswitch)
  all_goals
    next hkind => exact serves_loop hn (by rw [hkind]; rfl) (by rw [hkind]; rfl)

theorem serves_statement (hn : n.Grammatical)
    (hkinds : n.kind.isStatement = true ∨ n.kind.isBare = true) (hsmall : (t ++ s.own n).Small)
    (offset : Nat) :
    Triple (·.Holds s t) (enterStatement s offset n) (Serves s n (t ++ s.own n)) := by
  rw [enterStatement, leavesOut_eq_false hhints, Bool.or_false]
  refine .ite (fun hcomment => ?_) fun _ => ?_
  · exact serves_bare hn (Node.isBare_of_isComment hcomment)
  · refine .ite (fun _ => ?_) fun _ => serves_construct hhints hn hkinds hsmall offset
    refine (holds_newStatement _).bind fun id => (holds_mark _).bind fun _ => ?_
    exact serves_construct hhints hn hkinds hsmall offset

theorem serves_part (hn : n.Grammatical) (hsmall : (t ++ s.own n).Small) :
    Triple (·.Holds s t) (enterPart s n) (Serves s n (t ++ s.own n)) := by
  rw [enterPart, leavesOut_eq_false hhints, Bool.or_false]
  refine .ite (fun hcomment => serves_bare hn (Node.isBare_of_isComment hcomment)) fun _ => ?_
  split
  case h_1 hkind => exact serves_conditional hn hkind hsmall
  case h_2 hkind =>
    refine .ite (fun hlogical => serves_logical hn hlogical hsmall) fun hlogical => ?_
    have hbranches : s.branchesOf n = [] := by
      rw [Setting.branchesOf, hkind]
      exact if_neg hlogical
    have hown : s.own n = ∅ := Setting.own_of_branch (by rw [hkind]; rfl) hbranches
    rw [hown, Tally.append_empty]
    have huniform : Uniform n := by
      refine ⟨⟨by simpa using hlogical, ?_⟩, ?_⟩ <;> rw [hkind] <;> rfl
    exact serves_plan (covers_parts huniform fun c hc => hn.child hc) rfl
  case h_3 hkind => exact serves_pattern hn (.inl hkind)
  case h_4 hkind => exact serves_pattern hn (.inr hkind)
  case h_5 hkind => exact serves_declarators hn (by rw [hkind]; rfl) none
  case h_6 hkind => exact serves_declarators hn (by rw [hkind]; rfl) none
  case h_7 hkind =>
    have hordinary : Ordinary n := .of_kind hkind (by decide) rfl
    have hbranches : s.branchesOf n = [] := by rw [Setting.branchesOf, hkind]
    have hown : s.own n = ∅ := Setting.own_of_branch (by rw [hkind]; rfl) hbranches
    rw [hown, Tally.append_empty]
    apply serves_plan
    · apply hordinary.covers_roles hn (by rw [hkind]; rfl)
      · simp [Slot.isOperand, Slot.pattern?]
      · simp [Slot.admits]
    · rfl
  case h_8 hkind => exact serves_statements hn hkind false
  case h_9 hkind =>
    have hplain : n.kind.isPlain = true := by rw [hkind]; rfl
    apply serves_plain hplain
    · exact covers_members (.of_isPlain hplain) fun c hc => hn.child hc
    · rfl
  case h_10 hternary hbinary hpattern hshorthand _ _ hfield _ _ =>
    refine .ite (fun hfunction => serves_function hn hfunction hsmall) fun hfunction => ?_
    refine .ite (fun hcounted => ?_) fun hcounted => ?_
    · exact serves_statement hhints hn (.inl (Kind.isStatement_of_isCounted hcounted)) hsmall _
    · have hdefault := Kind.hasDefault_of_ne hpattern hshorthand
      apply serves_parts hn
      exact Kind.isPlain_of_uncounted hfunction hcounted hternary hbinary hdefault hfield

theorem serves_arm (hn : n.Grammatical)
    (hkinds : n.kind.isStatement = true ∨ n.kind.isBare = true) (hsmall : (t ++ s.own n).Small)
    (counter : Option Counter) :
    Triple (·.Holds s t) (enterArm s counter n) (Serves s n (t ++ s.own n)) := by
  rw [enterArm, leavesOut_eq_false hhints]
  refine .ite (fun hkind => ?_) fun _ => (holds_mark _).bind fun _ => ?_
  · cases counter with
    | none => exact serves_statements hn hkind false
    | some c => exact (holds_mark _).bind fun _ => serves_statements hn hkind false
  · cases counter with
    | none => exact serves_statement hhints hn hkinds hsmall _
    | some c => exact (holds_mark _).bind fun _ => serves_statement hhints hn hkinds hsmall _

theorem serves_initializer (hn : n.Grammatical) (hsmall : (t ++ s.own n).Small)
    (offset : Option Nat) :
    Triple (·.Holds s t) (enterInitializer s offset n) (Serves s n (t ++ s.own n)) := by
  have hmark : ∀ m, Triple (·.Holds s t) (do mark m; enterPart s n) (Serves s n (t ++ s.own n)) :=
    fun m => (holds_mark m).bind fun _ => serves_part hhints hn hsmall
  rw [enterInitializer]
  refine (holds_newStatement _).bind fun id => ?_
  cases offset with
  | none => exact hmark _
  | some offset => exact .ite (fun _ => hmark _) fun _ => hmark _

theorem serves_body (hn : n.Grammatical) (hsmall : (t ++ s.own n).Small) (function : Id) :
    Triple (·.Holds s t) (enterBody s function n) (Serves s n (t ++ s.own n)) := by
  rw [enterBody]
  refine .ite (fun hkind => (holds_mark _).bind fun _ => ?_) fun _ => ?_
  · exact serves_statements hn hkind true
  · refine (holds_newStatement _).bind fun id => (holds_mark _).bind fun _ => ?_
    exact serves_part hhints hn hsmall

theorem serves_case (hn : n.Grammatical) (hcase : n.kind.isCase = true) {branch : Id}
    (hbranch : t.Knows [branch]) :
    Triple (·.Holds s t) (enterCase s branch n)
      (Serves s n (t.credit [(branch, s.range n)] ++ s.own n)) := by
  have hplain : n.kind.isPlain = true := by
    rcases Kind.isCase_iff.1 hcase with hkind | hkind <;> rw [hkind] <;> rfl
  have hbody : n.kind.hasStatementBody = true := by
    rcases Kind.isCase_iff.1 hcase with hkind | hkind <;> rw [hkind] <;> rfl
  have hcovers : Plan.case.Covers s n n.children :=
    covers_case (.of_isPlain hplain) (fun c hc => hn.child hc) (hn.own.caseParts hcase)
      (hn.own.body hbody)
  rw [enterCase, leavesOut_eq_false hhints]
  refine (holds_newOutcome hbranch _).bind fun c => ?_
  split
  · exact (holds_mark _).bind fun _ => serves_plain hplain hcovers rfl
  · exact serves_plain hplain hcovers rfl

theorem serves_outcome (hn : n.Grammatical) (hsmall : (t ++ s.own n).Small) {branch : Id}
    (hbranch : t.Knows [branch]) :
    Triple (·.Holds s t) (do coverOutcome s branch n; enterPart s n)
      (Serves s n (t.credit [(branch, s.range n)] ++ s.own n)) := by
  have hafter : (t.credit [(branch, s.range n)] ++ s.own n).Small :=
    Tally.small_credit_iff.2 hsmall
  exact (holds_coverOutcome hbranch n).bind fun _ => serves_part hhints hn hafter

/-- A chain within a chain has no branch of its own. -/
theorem serves_operand (hn : n.Grammatical) (hm : m.isLogical = true)
    (hsmall : (t ++ s.tallyAt m n).Small) {branch : Id}
    (hbranch : t.Knows [branch]) :
    Triple (·.Holds s t) (enterOperand s branch n)
      (Serves s n (t.credit ((Slot.operand branch).outcomes s n) ++ s.tallyAt m n)) := by
  rw [enterOperand, leavesOut_eq_false hhints, Slot.outcomes]
  refine .ite (absurd · Bool.false_ne_true) fun _ => .ite (fun hlogical => ?_) fun hlogical => ?_
  · obtain ⟨hcovers, houtcomes⟩ := covers_operands (s := s) hn hlogical branch
    rw [Setting.tallyAt_of_chain hm hlogical, Tally.append_empty]
    have hknown : t.Knows (operands branch).branches := by
      apply hbranch.mono
      simp [operands, Plan.branches, Slot.branches]
    refine .pure fun p h => ⟨t, h, hcovers, hknown, ?_⟩
    rw [houtcomes, List.map_map]
    rfl
  · have hown : s.tallyAt m n = s.own n :=
      Setting.tallyAt_eq_own (hlogical ·.2) (Node.takesDefault_of_isLogical hm n)
    rw [Node.chainOperands_of_not_logical (by simpa using hlogical)]
    rw [hown] at hsmall ⊢
    exact serves_outcome hhints hn hsmall hbranch

theorem serves_default (hn : n.Grammatical) (hm : m.isLogical = false)
    (hdefault : takesDefault m n = true) (hsmall : (t ++ s.tallyAt m n).Small) :
    Triple (·.Holds s t)
      (do
        let branch ← newBranch .defaultValue (s.range m)
        coverOutcome s branch n
        enterPart s n)
      (Serves s n (t ++ s.tallyAt m n)) := by
  have htally : s.tallyAt m n = ⟨[], [s.branchEntry .defaultValue m [s.range n]]⟩ ++ s.own n := by
    rw [Setting.tallyAt, hdefault, hm]
    rfl
  rw [htally, ← Tally.append_assoc] at hsmall ⊢
  have hlt := length_lt_of_small hsmall.left
  refine (holds_newBranch hlt _ m).bind fun branch => .of_and fun hid => ?_
  refine (holds_coverOutcome (Tally.Knows.last hid _) n).bind fun _ => ?_
  have hcredit : (t ++ ⟨[], [s.branchEntry .defaultValue m []]⟩).credit [(branch, s.range n)] =
      t ++ ⟨[], [s.branchEntry .defaultValue m [s.range n]]⟩ :=
    Tally.credit_last hid _ [s.range n]
  rw [hcredit]
  exact serves_part hhints hn hsmall

theorem serves_ordinary (hmethods : s.ignoredMethods = []) (hn : n.Grammatical) {slot : Slot}
    (hchain : slot.isOperand = false) (hpattern : slot.pattern? = none)
    (hkind : slot.admits n.kind = true) (hknown : t.Knows slot.branches)
    (hsmall : (t ++ s.own n).Small) :
    Triple (·.Holds s t) (enter s slot n)
      (Serves s n (t.credit (slot.outcomes s n) ++ s.own n)) := by
  have hpart := serves_part hhints hn hsmall
  rw [enter.eq_def]
  cases slot with
  | part => exact hpart
  | statement offset => exact serves_statement hhints hn (Bool.or_eq_true_iff.1 hkind) hsmall offset
  | arm counter => exact serves_arm hhints hn (Bool.or_eq_true_iff.1 hkind) hsmall counter
  | elseClause counter =>
    have hclause : n.kind = .elseClause := of_decide_eq_true hkind
    have hplain : n.kind.isPlain = true := by rw [hclause]; rfl
    apply serves_plain hplain
    · exact covers_alternative (.of_isPlain hplain) (fun c hc => hn.child hc)
        (hn.own.alternative hclause) counter
    · rfl
  | loopHead =>
    refine .ite (fun hexpression => ?_) fun _ => hpart
    exact serves_parts hn (by rw [hexpression]; rfl)
  | declaration offset =>
    exact serves_declarators hn (Kind.isPlain_of_declaresVariables hkind) _
  | declarator offset =>
    have hdeclarator : n.kind = .variableDeclarator := of_decide_eq_true hkind
    have hordinary : Ordinary n := .of_kind hdeclarator (by decide) rfl
    apply serves_plain (by rw [hdeclarator]; rfl)
    · apply hordinary.covers_roles hn (by rw [hdeclarator]; rfl)
      · simp [Slot.isOperand, Slot.pattern?]
      · simp [Slot.admits]
    · rfl
  | initializer offset => exact serves_initializer hhints hn hsmall offset
  | member =>
    have hkept : s.ignoresMethod n = false := by
      rw [Setting.ignoresMethod, hmethods]
      cases n.child? .name <;> simp
    dsimp only
    rw [hkept]
    exact hpart
  | functionBody function => exact serves_body hhints hn hsmall function
  | cases branch =>
    exact serves_cases hn (of_decide_eq_true hkind) hknown
  | case branch => exact serves_case hhints hn hkind hknown
  | outcome branch =>
    dsimp only
    rw [leavesOut_eq_false hhints]
    exact serves_outcome hhints hn hsmall hknown
  | operand branch => cases hchain
  | defaultValue pattern => cases hpattern

/-- Entering a node in a slot that it may stand in finds what there is to find at it, and gives a
plan that covers its children. -/
theorem serves_enter (hmethods : s.ignoredMethods = []) (hn : n.Grammatical) {slot : Slot}
    (htakes : slot.Takes s m n) (hknown : t.Knows slot.branches)
    (hsmall : (t ++ s.tallyAt m n).Small) :
    Triple (·.Holds s t) (enter s slot n)
      (Serves s n (t.credit (slot.outcomes s n) ++ s.tallyAt m n)) := by
  have hchain := htakes.chain
  have hdefault := htakes.default
  cases hoperand : slot.isOperand with
  | true =>
    obtain ⟨branch, rfl⟩ := Slot.exists_of_isOperand hoperand
    exact serves_operand hhints hn hchain.symm hsmall hknown
  | false =>
    rw [hoperand] at hchain
    cases hpattern : slot.pattern? with
    | none =>
      have hnone : takesDefault m n = false := by
        cases hcase : takesDefault m n with
        | false => rfl
        | true =>
          rw [hpattern, hcase] at hdefault
          cases hdefault
      have hown : s.tallyAt m n = s.own n := by
        refine Setting.tallyAt_eq_own (fun h => ?_) hnone
        rw [← hchain] at h
        cases h.1
      rw [hown] at hsmall ⊢
      exact serves_ordinary hhints hmethods hn hoperand hpattern htakes.kind hknown hsmall
    | some pattern =>
      rw [hpattern] at hdefault
      obtain ⟨htrue, hrange⟩ := Option.ite_none_right_eq_some.1 hdefault.symm
      cases hrange
      rw [Slot.eq_of_pattern? hpattern]
      exact serves_default hhints hn hchain.symm htrue hsmall

end Unhinted

/-! ### The whole walk -/

section Walk

open Recording

variable {s : Setting}

mutual

/-- The walk through a node finds what there is to find below the link to it. -/
theorem holds_walk (hhints : ∀ k, s.hintAt k = none) (hmethods : s.ignoredMethods = []) {m : Node}
    {slot : Slot} {t : Tally} : (n : Node) → n.Grammatical → slot.Takes s m n →
    t.Knows slot.branches → (t ++ s.tally (m.linksTo [n])).Small →
    Triple (·.Holds s t) (walk s slot n)
      (fun _ p => p.Holds s (t.credit (slot.outcomes s n) ++ s.tally (m.linksTo [n])))
  | ⟨kind, role, start, stop, children⟩, hn, htakes, hknown, hsmall => by
    rw [Node.linksTo_singleton, htakes.decorates, Node.links] at hsmall ⊢
    simp only [Bool.false_eq_true, if_false, Setting.tally_cons, ← Tally.append_assoc] at hsmall ⊢
    rw [walk]
    refine (serves_enter hhints hmethods hn htakes hknown hsmall.left).bind fun plan => ?_
    rintro p ⟨t', h, hsuits⟩
    have hchildren :
        (t' ++ s.tally (Node.linksTo ⟨kind, role, start, stop, children⟩ children)).Small := by
      rw [← Tally.small_credit_iff, hsuits.credit, Tally.append_assoc, Tally.small_credit_iff,
        ← Tally.append_assoc]
      exact hsmall
    have hwalk := holds_walkAll hhints hmethods children (fun c hc => hn.child hc) hsuits.covers
      hsuits.known hchildren p h
    rw [hsuits.credit] at hwalk
    exact hwalk

/-- The walk through the children of a node finds what there is to find below the links to them. -/
theorem holds_walkAll (hhints : ∀ k, s.hintAt k = none) (hmethods : s.ignoredMethods = [])
    {m : Node} {plan : Plan} {t : Tally} : (children : List Node) →
    (∀ c ∈ children, c.Grammatical) → plan.Covers s m children →
    t.Knows plan.branches → (t ++ s.tally (m.linksTo children)).Small →
    Triple (·.Holds s t) (walkAll s plan children)
      (fun _ p => p.Holds s (t.credit (plan.outcomes s children) ++ s.tally (m.linksTo children)))
  | [], _, _, _, _ => by
    rw [walkAll]
    refine .pure fun p h => ?_
    exact (Tally.append_empty t).symm ▸ h
  | c :: rest, hgrammar, hcovers, hknown, hsmall => by
    obtain ⟨hc, hrest⟩ := List.forall_mem_cons.1 hgrammar
    obtain ⟨hmeets, hcovers⟩ := hcovers
    have hyields := plan.yields_next c
    rw [Node.linksTo_cons, Setting.tally_append, ← Tally.append_assoc] at hsmall ⊢
    rw [walkAll]
    split
    · next slot plan' heq =>
      have houtcomes : plan.outcomes s (c :: rest) =
          slot.outcomes s c ++ plan'.outcomes s rest := by
        rw [Plan.outcomes, heq]
      rw [heq] at hmeets hcovers hyields
      rw [houtcomes]
      have hslot : t.Knows slot.branches := hknown.mono (hyields.slotBranches slot rfl)
      have hplan : (t.credit (slot.outcomes s c)).Knows plan'.branches :=
        (hknown.mono hyields.branches).credit _
      have hcredited : (t.credit (slot.outcomes s c) ++ s.tally (m.linksTo [c]) ++
          s.tally (m.linksTo rest)).Small := by
        rw [Tally.append_assoc, Tally.small_credit_iff, ← Tally.append_assoc]
        exact hsmall
      have hwalk := holds_walkAll hhints hmethods rest hrest hcovers (hplan.append _) hcredited
      -- The outcomes of later children go to branches from before this child.
      have hids : ∀ o ∈ plan'.outcomes s rest,
          o.1.toNat < (t.credit (slot.outcomes s c)).branches.length :=
        fun o ho => hplan o.1 (Plan.mem_branches_of_outcomes o ho)
      rw [Tally.credit_left hids, ← Tally.credit_append] at hwalk
      exact (holds_walk hhints hmethods c hc hmeets hslot hsmall.left).bind fun _ => hwalk
    · next plan' heq =>
      have houtcomes : plan.outcomes s (c :: rest) = plan'.outcomes s rest := by
        rw [Plan.outcomes, heq]
      rw [heq] at hmeets hcovers hyields
      have hidle : s.tally (m.linksTo [c]) = ∅ := hmeets
      rw [hidle, Tally.append_empty] at hsmall ⊢
      rw [houtcomes]
      exact holds_walkAll hhints hmethods rest hrest hcovers (hknown.mono hyields.branches) hsmall

end

end Walk

/-! ### Branches without outcomes -/

section Kept

variable {s : Setting}

/-- Only a `switch` can have a branch without outcomes. -/
theorem kind_of_outcomes_eq_nil {m c : Node} (hc : c.Grammatical) {b : BranchEntry}
    (hb : b ∈ (s.tallyAt m c).branches) (hempty : b.outcomes = []) : b.kind = .switch := by
  have hown : b ∈ s.branchesOf c := by
    rw [Setting.tallyAt, Tally.branches_append, List.mem_append] at hb
    rcases hb with hb | hb
    · split at hb
      · rw [List.mem_singleton.1 hb] at hempty
        cases hempty
      · cases hb
    · split at hb
      · cases hb
      · exact hb
  rw [Setting.branchesOf.eq_def] at hown
  split at hown
  · rw [List.mem_singleton.1 hown] at hempty
    cases hempty
  · rw [List.mem_singleton.1 hown]
    rfl
  · next hkind =>
    obtain ⟨d, hd, hrole⟩ := hc.own.outcome hkind
    rw [List.mem_singleton.1 hown] at hempty
    have harms := List.map_eq_nil_iff.1 hempty
    exact absurd (decide_eq_true (.inl hrole)) (List.filter_eq_nil_iff.1 harms d hd)
  · split at hown
    · rw [List.mem_singleton.1 hown] at hempty
      exact absurd (List.map_eq_nil_iff.1 hempty) (Node.chainOperands_ne_nil c hc)
    · cases hown
  · cases hown

end Kept

/-! ### The whole program -/

/-- In a program without hints, where no methods are left out, every function with a body and every
branch that is linked gets one number, in the order of the text. Branches without outcomes are
dropped in the end, and these are those of empty `switch` statements. -/
theorem numbers_walkProgram {s : Setting} {program : Node} (hprogram : program.kind = .program)
    (hgrammar : program.Grammatical) (hhints : ∀ k, s.hintAt k = none)
    (hmethods : s.ignoredMethods = []) (hsmall : (s.tally program.links).Small) (path : String) :
    let found := s.tally program.links
    let record := (walkProgram s path program).1.freeze
    (∀ id, record.functions.get? id =
      found.functions[id.toNat]?.map fun e => s.functionEntry id e.1 e.2) ∧
    (∀ id, record.branches.get? id =
      found.branches[id.toNat]?.filter fun b => !b.outcomes.isEmpty) ∧
    ∀ b ∈ found.branches, b.outcomes = [] → b.kind = .switch := by
  intro found record
  have hplain : program.kind.isPlain = true := by rw [hprogram]; rfl
  have hcovers : (Plan.statements true).Covers s program program.children :=
    covers_statements (.of_isPlain hplain) (fun c hc => hgrammar.child hc)
      (hgrammar.own.statements (.inl hprogram)) true
  have hempty : Progress.Holds s ∅ ⟨.empty path, []⟩ :=
    ⟨fun _ => rfl, fun _ => rfl, .empty path⟩
  have hwalk := holds_walkAll hhints hmethods program.children (fun c hc => hgrammar.child hc)
    hcovers nofun ((Node.links_eq program) ▸ hsmall) _ hempty
  rw [Plan.outcomes_eq_nil rfl, ← Node.links_eq] at hwalk
  refine ⟨fun id => hwalk.functions id, fun id => ?_, fun b hb hnone => ?_⟩
  · have hget := hwalk.branches id
    rw [Option.map_id'] at hget
    have hfreeze := Skeleton.get?_branches_freeze (walkProgram s path program).1 id
    exact hfreeze.trans (congrArg (Option.filter _) hget)
  · obtain ⟨l, hl, hb⟩ := List.mem_flatMap.1 hb
    obtain ⟨hin, hchild⟩ := Node.inTree_of_mem_links program l hl
    exact kind_of_outcomes_eq_nil ((hgrammar.inTree hin).child hchild) hb hnone

/-- `(a = b)`, the parameters of `(a = b) => a && b || c;`. -/
def defaultParameter : Node :=
  ⟨.formalParameters, some .parameters, 0, 7,
    [.leaf (.token "(") 0 1,
      ⟨.assignmentPattern, none, 1, 6,
        [(Node.leaf .identifier 1 2).as .left, .leaf (.token "=") 3 4,
          (Node.leaf .identifier 5 6).as .right]⟩,
      .leaf (.token ")") 6 7]⟩

/-- `a && b || c`, its body. -/
def chainBody : Node :=
  ⟨.binaryExpression, some .body, 11, 22,
    [⟨.binaryExpression, some .left, 11, 17,
      [(Node.leaf .identifier 11 12).as .left, (Node.leaf (.token "&&") 13 15).as .operator,
        (Node.leaf .identifier 16 17).as .right]⟩,
      (Node.leaf (.token "||") 18 20).as .operator, (Node.leaf .identifier 21 22).as .right]⟩

def chainFunction : Node :=
  ⟨.arrowFunction, none, 0, 22, [defaultParameter, .leaf (.token "=>") 8 10, chainBody]⟩

/-- `(a = b) => a && b || c;`. -/
def chainProgram : Node :=
  ⟨.program, none, 0, 23,
    [⟨.expressionStatement, none, 0, 23, [chainFunction, .leaf (.token ";") 22 23]⟩]⟩

/-- An operation or a pattern with a default value, whose parts are on both sides of a token. -/
theorem grammatical_between {kind : Kind}
    (hkind : kind = .binaryExpression ∨ kind = .assignmentPattern) {left token right : Node}
    (hleft : left.Grammatical) (hright : right.Grammatical) (htoken : token.Grammatical)
    (hroles : left.role = some .left ∧ right.role = some .right ∧
      token.role ≠ some .left ∧ token.role ≠ some .right)
    (hnamed : left.isNamed = true ∧ right.isNamed = true) (hbare : token.kind.isBare = true)
    (role : Option Role) (start stop : Nat) :
    Node.Grammatical ⟨kind, role, start, stop, [left, token, right]⟩ := by
  obtain ⟨hl, hr, hnotLeft, hnotRight⟩ := hroles
  rw [Node.grammatical_iff]
  constructor
  · have hroles : kind.roles? = some [.left, .right] := by rcases hkind with rfl | rfl <;> rfl
    have hdecorates : kind.isMember = false := by rcases hkind with rfl | rfl <;> rfl
    constructor
    case parts =>
      intro roles heq
      cases hroles.symm.trans heq
      simp [Node.decorates, hdecorates, hl, hr, hnotLeft, hnotRight, hnamed, hbare]
    case apart =>
      intro _
      simp [Node.PlayApart, hl, hr, hnotLeft.symm, hnotRight]
    case operand =>
      intro _
      exact ⟨left, List.mem_cons_self, hl⟩
    all_goals
      rcases hkind with rfl | rfl <;>
        simp [Kind.isBare, Kind.isFunction, Kind.hasStatementBody, Kind.isCase]
  · rw [List.forall_mem_cons, List.forall_mem_cons, List.forall_mem_singleton]
    exact ⟨hleft, htoken, hright⟩

theorem grammatical_chainProgram : chainProgram.Grammatical := by
  have hleaf : ∀ kind role start stop, Kind.isBare kind = true →
      Node.Grammatical ⟨kind, role, start, stop, []⟩ :=
    fun _ role start stop hbare => Node.grammatical_leaf hbare role start stop
  have hpattern : Node.Grammatical ⟨.assignmentPattern, none, 1, 6,
      [(Node.leaf .identifier 1 2).as .left, .leaf (.token "=") 3 4,
        (Node.leaf .identifier 5 6).as .right]⟩ := by
    apply grammatical_between (.inr rfl) (hleaf _ _ _ _ rfl) (hleaf _ _ _ _ rfl)
      (hleaf _ _ _ _ rfl)
    all_goals decide
  have hparameters : defaultParameter.Grammatical := by
    rw [defaultParameter, Node.grammatical_iff]
    constructor
    · constructor <;>
        simp [Kind.isBare, Kind.roles?, Kind.isFunction, Kind.hasStatementBody, Kind.isCase]
    · rw [List.forall_mem_cons, List.forall_mem_cons, List.forall_mem_singleton]
      exact ⟨hleaf _ _ _ _ rfl, hpattern, hleaf _ _ _ _ rfl⟩
  have hconjunction : Node.Grammatical ⟨.binaryExpression, some .left, 11, 17,
      [(Node.leaf .identifier 11 12).as .left, (Node.leaf (.token "&&") 13 15).as .operator,
        (Node.leaf .identifier 16 17).as .right]⟩ := by
    apply grammatical_between (.inl rfl) (hleaf _ _ _ _ rfl) (hleaf _ _ _ _ rfl)
      (hleaf _ _ _ _ rfl)
    all_goals decide
  have hbody : chainBody.Grammatical := by
    apply grammatical_between (.inl rfl) hconjunction (hleaf _ _ _ _ rfl) (hleaf _ _ _ _ rfl)
    all_goals decide
  have hfunction : chainFunction.Grammatical := by
    rw [chainFunction, Node.grammatical_iff]
    constructor
    · constructor <;>
        simp [Kind.isBare, Kind.roles?, Kind.isFunction, Kind.hasStatementBody, Kind.isCase,
          Node.leaf, Node.isNamed, Node.decorates, Kind.isMember, Node.PlayApart, defaultParameter,
          chainBody, Node.child?]
    · rw [List.forall_mem_cons, List.forall_mem_cons, List.forall_mem_singleton]
      exact ⟨hparameters, hleaf _ _ _ _ rfl, hbody⟩
  have hstatement : Node.Grammatical ⟨.expressionStatement, none, 0, 23,
      [chainFunction, .leaf (.token ";") 22 23]⟩ := by
    rw [Node.grammatical_iff]
    constructor
    · constructor <;>
        simp [Kind.isBare, Kind.roles?, Kind.isFunction, Kind.hasStatementBody, Kind.isCase]
    · rw [List.forall_mem_cons, List.forall_mem_singleton]
      exact ⟨hfunction, hleaf _ _ _ _ rfl⟩
  rw [chainProgram, Node.grammatical_iff]
  constructor
  · constructor <;>
      simp [Kind.isBare, Kind.roles?, Kind.isFunction, Kind.hasStatementBody, Kind.isCase,
        Kind.isStatement]
  · rw [List.forall_mem_singleton]
    exact hstatement

/-- The walk knows of no hints in it. -/
def chainSetting : Setting := ⟨"(a = b) => a && b || c;".toList, fun _ => none, []⟩

/-- One function, one default value and one chain with three outcomes are numbered. -/
theorem numbers_walkProgram_chain :
    let record := (walkProgram chainSetting "/a.js" chainProgram).1.freeze
    chainProgram.Grammatical ∧
      record.functions.get? 0 = some (chainSetting.functionEntry 0 chainFunction chainBody) ∧
      record.functions.get? 1 = none ∧
      (record.branches.get? 0).map (fun b => (b.kind, b.outcomes.length)) =
        some (.defaultValue, 1) ∧
      (record.branches.get? 1).map (fun b => (b.kind, b.outcomes.length)) = some (.logical, 3) ∧
      record.branches.get? 2 = none := by
  intro record
  have hfunctions : (chainSetting.tally chainProgram.links).functions =
      [(chainFunction, chainBody)] := rfl
  have hlength : (chainSetting.tally chainProgram.links).branches.length = 2 := rfl
  have hsmall : (chainSetting.tally chainProgram.links).Small := by
    constructor
    · rw [hfunctions]
      decide
    · rw [hlength]
      decide
  obtain ⟨hnumbered, hkept, -⟩ :=
    numbers_walkProgram rfl grammatical_chainProgram (fun _ => rfl) rfl hsmall "/a.js"
  refine ⟨grammatical_chainProgram, ?_, ?_, ?_, ?_, ?_⟩
  · exact (hnumbered 0).trans (by rw [hfunctions]; rfl)
  · exact (hnumbered 1).trans (by rw [hfunctions]; rfl)
  · exact (congrArg _ (hkept 0)).trans rfl
  · exact (congrArg _ (hkept 1)).trans rfl
  · exact (hkept 2).trans rfl

end Coverage.Instrument
