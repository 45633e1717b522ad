import Coverage.Instrument.Walk

/-!
# What a step of the walk can do

A plan goes on at a child in few ways. `Plan.Step` lists them, with what is then known of the child,
and `Plan.step_next` says that these are all.

In whatever slot a node stands, entering it comes down to few steps as well: it numbers the range of
the node, leaves marks in front of the node, around it or in it, and ends with a plan. `Entry` lists
these steps, with what is then known of the node and its slot, and `entry_enter` says that the walk
enters every node by them. So a property of the walk needs a rule for each of these steps and none
for each of the constructs.
-/

namespace Coverage.Instrument

open Coverage.Script (Node Kind Role prologue)

/-! ### Going on at a child -/

namespace Plan

/-- The ways a plan can go on at a child, with what is then known of the child. -/
inductive Step (c : Node) : Plan → Option Slot × Plan → Prop where
  /-- The child is not walked. A plan that waits for an alternative passes over nothing else than
  comments and unnamed children. -/
  | skip (plan : Plan)
      (h : ∀ counter, plan = alternative counter → c.isNamed = false ∨ c.isComment = true) :
      Step c plan (none, plan)
  | part : Step c parts (some .part, parts)
  | member : Step c members (some .member, members)
  | statement (directives : Bool) (hcode : c.isComment = false) :
      Step c (statements directives) (some (.statement c.start), statements false)
  | declarator (offset : Option Nat) (hkind : c.kind = .variableDeclarator) :
      Step c (declarators offset) (some (.declarator offset), declarators offset)
  | declared (offset : Option Nat) : Step c (declarators offset) (some .part, declarators offset)
  | declaration (offset : Nat) (hkind : c.kind.declaresVariables = true) :
      Step c (exports offset) (some (.declaration offset), exports offset)
  | exported (offset : Nat) : Step c (exports offset) (some .part, exports offset)
  | loopBody (hrole : c.role = some .body) : Step c loop (some (.arm none), loop)
  | loopHead : Step c loop (some .loopHead, loop)
  | alternative (counter : Counter) (hnamed : c.isNamed = true) (hcode : c.isComment = false) :
      Step c (alternative counter) (some (.arm (some counter)), nothing)
  | case (branch : Id) (hkind : c.kind = .switchCase ∨ c.kind = .switchDefault) :
      Step c (cases branch) (some (.case branch), cases branch)
  | caseValue : Step c case (some .part, case)
  | caseBody (hcode : c.isComment = false) : Step c case (some (.statement c.start), case)
  | role {slots : List (Role × Slot)} {role : Role} {slot : Slot} (hrole : c.role = some role)
      (hslot : (role, slot) ∈ slots) :
      Step c (roles slots) (some slot, roles (slots.filter fun e => e.1 ≠ role))

theorem statementSlot_cases (directives : Bool) (c : Node) :
    statementSlot directives c = none ∨
      c.isComment = false ∧ statementSlot directives c = some (.statement c.start) := by
  rw [statementSlot]
  split
  · exact .inl rfl
  · next hcode => exact .inr ⟨by simp_all, rfl⟩

/-- A plan goes on in one of these ways. -/
theorem step_next (plan : Plan) (c : Node) : plan.Step c (plan.next c) := by
  have hskip : ∀ {plan : Plan}, (∀ counter, plan ≠ alternative counter) →
      Step c plan (none, plan) :=
    fun hplan => .skip _ fun counter heq => absurd heq (hplan counter)
  rw [next.eq_def]
  split
  · next hnamed => exact .skip plan fun _ _ => .inl (by simpa using hnamed)
  next hnamed =>
  cases plan with
  | nothing => exact hskip nofun
  | parts => exact .part
  | members => exact .member
  | statements directives =>
    dsimp only
    obtain hslot | ⟨hcode, hslot⟩ := statementSlot_cases directives c
    · rw [hslot]
      exact hskip nofun
    · rw [hslot]
      exact .statement directives hcode
  | declarators offset =>
    dsimp only
    split
    · next hkind => exact .declarator offset hkind
    · exact .declared offset
  | exports offset =>
    dsimp only
    split
    · next hkind => exact .declaration offset hkind
    · exact .exported offset
  | loop =>
    dsimp only
    split
    · next hrole => exact .loopBody hrole
    · exact .loopHead
  | alternative counter =>
    dsimp only
    split
    · next hcomment => exact .skip _ fun _ _ => .inr hcomment
    · next hcode => exact .alternative counter (by simpa using hnamed) (by simpa using hcode)
  | cases branch =>
    dsimp only
    split
    · next hkind => exact .case branch (by simpa using hkind)
    · exact hskip nofun
  | case =>
    dsimp only
    split
    · exact .caseValue
    · obtain hslot | ⟨hcode, hslot⟩ := statementSlot_cases false c
      · rw [hslot]
        exact hskip nofun
      · rw [hslot]
        exact .caseBody hcode
    · exact hskip nofun
  | roles slots =>
    dsimp only
    split
    · next role slot heq =>
      obtain ⟨found, hfound, hfind⟩ := Option.bind_eq_some_iff.1 heq
      have hsame : role = found := by simpa using List.find?_some hfind
      exact .role (hsame ▸ hfound) (List.mem_of_find?_eq_some hfind)
    · exact hskip nofun

end Plan

/-! ### Entering a node -/

open Recording

/-- The place that a slot keeps for a counter. -/
def Slot.offset? : Slot → Option Nat
  | .statement offset | .declaration offset => some offset
  | .declarator offset | .initializer offset => offset
  | _ => none

/-- The places for the counter of a node: the one in front of it and the one that its slot keeps. -/
def EntryPlace (n : Node) (slot : Slot) (offset : Nat) : Prop :=
  offset = n.start ∨ slot.offset? = some offset

/-- The marks that are left on a node when it is entered, apart from the clause of an `if` without
an alternative. -/
inductive EntryMark (n : Node) (slot : Slot) : Mark → Prop where
  | count {offset : Nat} (hplace : EntryPlace n slot offset) (c : Counter) :
      EntryMark n slot (.count offset c)
  | brace (hkind : n.kind = .statementBlock) (c : Counter) :
      EntryMark n slot (.count (n.start + 1) c)
  | colon {colon : Node} (hmem : colon ∈ n.children) (htoken : colon.isToken ":" = true)
      (c : Counter) : EntryMark n slot (.count colon.stop c)
  | entry (hkind : n.kind = .statementBlock) (semicolon : Bool) (c : Counter) :
      EntryMark n slot (.entry (prologue n.namedChildren (n.start + 1)).offset semicolon c)
  | pair (c : Counter) : EntryMark n slot (.pair n.start n.stop c)
  | block : EntryMark n slot (.block n.start n.stop)
  | body (function statement : Counter) : EntryMark n slot (.body n.start n.stop function statement)

/-- The plans for the children of a node, apart from that of an `if`. -/
inductive EntryPlan (s : Setting) (n : Node) (slot : Slot) : Plan → Prop where
  | nothing : EntryPlan s n slot .nothing
  | parts : EntryPlan s n slot .parts
  | members : EntryPlan s n slot .members
  | statements (directives : Bool) : EntryPlan s n slot (.statements directives)
  | loop : EntryPlan s n slot .loop
  | declarators (hkind : n.kind.declaresVariables = true) {offset : Nat}
      (hplace : EntryPlace n slot offset) : EntryPlan s n slot (.declarators (some offset))
  | declared (hkind : n.kind.declaresVariables = true) : EntryPlan s n slot (.declarators none)
  | exports (hkind : n.kind = .exportStatement) {offset : Nat} (hplace : EntryPlace n slot offset) :
      EntryPlan s n slot (.exports offset)
  | labeled {offset : Nat} (hplace : EntryPlace n slot offset) :
      EntryPlan s n slot (.roles [(.body, .statement offset)])
  | function (hkind : n.kind.isFunction = true) (computed : Bool) (id : Id) :
      EntryPlan s n slot (.roles ((if computed then [(.name, .part)] else []) ++
        [(.parameters, .part), (.parameter, .part), (.body, .functionBody id)]))
  | switch (hkind : n.kind = .switchStatement) (branch : Id) :
      EntryPlan s n slot (.roles [(.value, .part), (.body, .cases branch)])
  | conditional (branch : Id) : EntryPlan s n slot (.roles
      [(.condition, .part), (.consequence, .outcome branch), (.alternative, .outcome branch)])
  | operands (branch : Id) : EntryPlan s n slot (operands branch)
  | pattern : EntryPlan s n slot (.roles [(.left, .part), (.right, .defaultValue (s.range n))])
  | field (hkind : n.kind = .fieldDefinition) :
      EntryPlan s n slot (.roles [(.property, .part), (.value, .initializer none)])
  | declaration {offset : Nat} (hslot : slot = .declaration offset) :
      EntryPlan s n slot (.declarators (some offset))
  | declarator {offset : Option Nat} (hslot : slot = .declarator offset) :
      EntryPlan s n slot (.roles [(.name, .part), (.value, .initializer offset)])
  | alternative {counter : Counter} (hslot : slot = .elseClause counter) :
      EntryPlan s n slot (.alternative counter)
  | cases (branch : Id) : EntryPlan s n slot (.cases branch)
  | case : EntryPlan s n slot .case

/-- The steps by which a node in a slot is entered. An `if` is entered in a way of its own. -/
inductive Entry (s : Setting) (n : Node) (slot : Slot) : Recording Plan → Prop where
  | plan {plan : Plan} (hplan : EntryPlan s n slot plan) : Entry s n slot (pure plan)
  | ifElse (hkind : n.kind = .ifStatement) : Entry s n slot (enterIf s n)
  | function (hkind : n.kind.isFunction = true) {body : Node} (hbody : n.child? .body = some body)
      (name : Option String) {decl : Location}
      (hdecl : decl = s.firstColumn n ∨ ∃ m ∈ n.children, decl = s.range m)
      {f : Id → Recording Plan} (h : ∀ id, Entry s n slot (f id)) :
      Entry s n slot (newFunction name decl (s.range body) >>= f)
  | statement {f : Id → Recording Plan} (h : ∀ id, Entry s n slot (f id)) :
      Entry s n slot (newStatement (s.range n) >>= f)
  | branch (kind : BranchKind) {f : Id → Recording Plan} (h : ∀ id, Entry s n slot (f id)) :
      Entry s n slot (newBranch kind (s.range n) >>= f)
  | defaultValue {pattern : Location} (hslot : slot = .defaultValue pattern)
      {f : Id → Recording Plan} (h : ∀ id, Entry s n slot (f id)) :
      Entry s n slot (newBranch .defaultValue pattern >>= f)
  | outcome (branch : Id) {f : Counter → Recording Plan} (h : ∀ c, Entry s n slot (f c)) :
      Entry s n slot (newOutcome branch (s.range n) >>= f)
  | mark {m : Mark} (hm : EntryMark n slot m) {x : Recording Plan} (h : Entry s n slot x) :
      Entry s n slot (do mark m; x)

section Enter

variable {s : Setting} {n : Node} {slot : Slot} {x y : Recording Plan}

theorem Entry.ite {c : Prop} [Decidable c] (hx : c → Entry s n slot x)
    (hy : ¬ c → Entry s n slot y) : Entry s n slot (if c then x else y) := by
  split
  · exact hx ‹_›
  · exact hy ‹_›

/-- A node may be left out before it is entered. -/
theorem Entry.unless {c : Prop} [Decidable c] (h : Entry s n slot x) :
    Entry s n slot (if c then pure .nothing else x) :=
  .ite (fun _ => .plan .nothing) fun _ => h

/-- The counter of an arm goes in front of what is done next. -/
theorem Entry.counter {offset : Nat} (hm : ∀ c, EntryMark n slot (.count offset c))
    (counter : Option Counter) (h : Entry s n slot x) :
    Entry s n slot (do
      if let some c := counter then Recording.mark (.count offset c)
      x) := by
  cases counter with
  | none => exact h
  | some c => exact .mark (hm c) h

/-- A node that is an outcome of a branch gets its counter, and then it is entered. -/
theorem Entry.cover (branch : Id) (h : Entry s n slot x) :
    Entry s n slot (do coverOutcome s branch n; x) := by
  rw [coverOutcome, bind_assoc]
  exact .outcome branch fun c => .mark (.pair c) h

theorem entryPlace_start : EntryPlace n slot n.start := .inl rfl

theorem entry_function (hkind : n.kind.isFunction = true) : Entry s n slot (enterFunction s n) := by
  rw [enterFunction]
  split
  · next body hbody =>
    refine .function hkind hbody _ ?_ fun id => .plan (.function hkind _ id)
    split
    · next m hm =>
      have hname := (Option.filter_eq_some_iff.1 hm).1
      exact .inr ⟨m, List.mem_of_find?_eq_some hname, rfl⟩
    · exact .inl rfl
  · exact .plan .nothing

theorem entry_construct {offset : Nat} (hplace : EntryPlace n slot offset) :
    Entry s n slot (enterConstruct s offset n) := by
  rw [enterConstruct]
  split
  case h_1 hkind => exact .ifElse hkind
  case h_2 hkind => exact .branch .switch fun branch => .plan (.switch hkind branch)
  case h_3 => exact .plan (.labeled hplace)
  case h_9 hkind => exact .plan (.declarators (hkind ▸ rfl) hplace)
  case h_10 hkind => exact .plan (.declarators (hkind ▸ rfl) hplace)
  case h_11 hkind => exact .plan (.exports hkind hplace)
  case h_12 => exact .plan (.statements false)
  case h_13 => exact .ite entry_function fun _ => .plan .parts
  all_goals exact .plan .loop

theorem entry_statement {offset : Nat} (hplace : EntryPlace n slot offset) :
    Entry s n slot (enterStatement s offset n) := by
  rw [enterStatement]
  refine .unless (.ite (fun _ => ?_) fun _ => entry_construct hplace)
  exact .statement fun id => .mark (.count hplace (.statement id)) (entry_construct hplace)

theorem entry_part : Entry s n slot (enterPart s n) := by
  rw [enterPart]
  refine .unless ?_
  split
  case h_1 => exact .branch .conditional fun branch => .plan (.conditional branch)
  case h_2 =>
    refine .ite (fun _ => ?_) fun _ => .plan .parts
    exact .branch .logical fun branch => .plan (.operands branch)
  case h_3 => exact .plan .pattern
  case h_4 => exact .plan .pattern
  case h_5 hkind => exact .plan (.declared (hkind ▸ rfl))
  case h_6 hkind => exact .plan (.declared (hkind ▸ rfl))
  case h_7 hkind => exact .plan (.field hkind)
  case h_8 => exact .plan (.statements false)
  case h_9 => exact .plan .members
  case h_10 =>
    refine .ite entry_function fun _ => ?_
    exact .ite (fun _ => entry_statement entryPlace_start) fun _ => .plan .parts

/-- What comes behind the brace around an arm that is not a block. -/
theorem entry_single (counter : Option Counter) :
    Entry s n slot (do
      if let some c := counter then mark (.count n.start c)
      enterStatement s n.start n) :=
  .counter (fun c => .count entryPlace_start c) counter (entry_statement entryPlace_start)

theorem entry_arm (counter : Option Counter) : Entry s n slot (enterArm s counter n) := by
  rw [enterArm]
  refine .ite (fun hkind => .counter (fun c => .brace hkind c) counter ?_) fun _ => ?_
  · split
    · exact .plan .nothing
    · exact .plan (.statements false)
  · exact .mark .block (entry_single counter)

theorem entry_initializer {offset : Option Nat} (hslot : slot.offset? = offset) :
    Entry s n slot (enterInitializer s offset n) := by
  rw [enterInitializer]
  refine .statement fun id => ?_
  cases offset with
  | none => exact .mark (.pair _) entry_part
  | some offset =>
    refine .ite (fun _ => ?_) fun _ => .mark (.pair _) entry_part
    exact .mark (.count (.inr hslot) _) entry_part

theorem entry_body (function : Id) : Entry s n slot (enterBody s function n) := by
  rw [enterBody]
  refine .ite (fun hkind => .mark (.entry hkind _ _) (.plan (.statements true))) fun _ => ?_
  exact .statement fun id => .mark (.body _ _) entry_part

theorem entry_case (branch : Id) : Entry s n slot (enterCase s branch n) := by
  rw [enterCase]
  refine .unless (.outcome branch fun c => ?_)
  split
  · next colon hcolon =>
    have htoken : colon.isToken ":" = true := by simpa using List.find?_some hcolon
    exact .mark (.colon (List.mem_of_find?_eq_some hcolon) htoken c) (.plan .case)
  · exact .plan .case

theorem entry_operand (branch : Id) : Entry s n slot (enterOperand s branch n) := by
  rw [enterOperand]
  exact .unless (.ite (fun _ => .plan (.operands branch)) fun _ => .cover branch entry_part)

/-- The walk enters every node by these steps. -/
theorem entry_enter (s : Setting) (slot : Slot) (n : Node) : Entry s n slot (enter s slot n) := by
  rw [enter.eq_def]
  cases slot with
  | part => exact entry_part
  | statement offset => exact entry_statement (.inr rfl)
  | arm counter => exact entry_arm counter
  | elseClause counter => exact .plan (.alternative rfl)
  | loopHead => exact .ite (fun _ => .plan .parts) fun _ => entry_part
  | declaration offset => exact .plan (.declaration rfl)
  | declarator offset => exact .plan (.declarator rfl)
  | initializer offset => exact entry_initializer rfl
  | member => exact .unless entry_part
  | functionBody function => exact entry_body function
  | cases branch => exact .plan (.cases branch)
  | case branch => exact entry_case branch
  | outcome branch => exact .unless (.cover branch entry_part)
  | operand branch => exact entry_operand branch
  | defaultValue pattern => exact .defaultValue rfl fun branch => .cover branch entry_part

end Enter

end Coverage.Instrument
