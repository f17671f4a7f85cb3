import LoopBound.Proofs.Syntax.LoopIds

/-!
# Well-formed trees

A tree may be put together in ways that no program has. It is well-formed if every node stands in a
slot that was made for nodes like it: statements where statements go, expressions where expressions
go, and so on. A `Role` is what a slot asks for, and a node's `roles` go slot by slot with its
`slots`.

What a slot asks of a node can be read off the node alone, and what a node asks for in its slots
does not depend on what is there. So a change of the nodes below keeps a tree well-formed as soon as
it puts everything into the role of what was there before.
-/

namespace LoopBound.Syntax

/-! ## Roles -/

/-- What a node is for the node above it. Whatever stands within a line is an expression here:
binding patterns and the entries of objects too. -/
inductive Category where
  | expression | statement | block | declaration | declarator | handler | case | member
  deriving DecidableEq, Repr

/-- What a slot asks for. -/
inductive Role where
  /-- An expression. -/
  | expression
  /-- What a loop header binds: an expression, or a declaration without its semicolon. -/
  | binding
  /-- An identifier. -/
  | name
  /-- A function that is a member of an object or class. -/
  | method
  /-- A statement: a line, a block or a declaration. -/
  | statement
  /-- A block. -/
  | block
  /-- What an arrow function gives: an expression or a block. -/
  | arrowBody
  /-- A variable of a declaration. -/
  | declarator
  /-- What is done with an exception. -/
  | handler
  /-- A case of a choice among values. -/
  | case
  /-- A member of a class. -/
  | member
  deriving DecidableEq, Repr

namespace Node

/-- What the node is for the node above it. -/
def category : Node → Category
  | program .. | emptyStatement .. | expressionStatement .. | functionDeclaration ..
  | classDeclaration .. | ifStatement .. | returnStatement .. | breakStatement ..
  | continueStatement .. | throwStatement .. | tryStatement .. | switchStatement ..
  | labeledStatement .. | debuggerStatement .. | forStatement .. | forInStatement ..
  | forOfStatement .. | whileStatement .. | doWhileStatement .. => .statement
  | blockStatement .. => .block
  | variableDeclaration .. => .declaration
  | variableDeclarator .. => .declarator
  | catchClause .. => .handler
  | switchCase .. => .case
  | methodDefinition .. | propertyDefinition .. => .member
  | _ => .expression

/-- The node is an identifier. -/
def isIdentifier : Node → Bool
  | identifier .. => true
  | _ => false

/-- The node is a function in an expression. -/
def isFunction : Node → Bool
  | functionExpression .. => true
  | _ => false

end Node

/-- The node is what a slot of this role asks for. -/
def Role.admits : Role → Node → Bool
  | expression, n => n.category = .expression
  | binding, n => n.category = .expression || n.category = .declaration
  | name, n => n.isIdentifier
  | method, n => n.isFunction
  | statement, n => n.category = .statement || n.category = .block || n.category = .declaration
  | block, n => n.category = .block
  | arrowBody, n => n.category = .expression || n.category = .block
  | declarator, n => n.category = .declarator
  | handler, n => n.category = .handler
  | case, n => n.category = .case
  | member, n => n.category = .member

namespace Node

/-- What the slots of the node ask for, in their order. -/
def roles : Node → List Role
  | program .. | blockStatement .. => [.statement]
  | emptyStatement .. | debuggerStatement .. => []
  | expressionStatement .. => [.expression]
  | variableDeclarator .. => [.expression, .expression]
  | variableDeclaration .. => [.declarator]
  | functionDeclaration .. => [.name, .expression, .block]
  | classDeclaration .. => [.name, .expression, .member]
  | ifStatement .. => [.expression, .statement, .statement]
  | returnStatement .. | throwStatement .. => [.expression]
  | breakStatement .. | continueStatement .. => [.name]
  | catchClause .. => [.expression, .block]
  | tryStatement .. => [.block, .handler, .block]
  | switchCase .. => [.expression, .statement]
  | switchStatement .. => [.expression, .case]
  | labeledStatement .. => [.name, .statement]
  | forStatement .. => [.binding, .expression, .expression, .statement]
  | forInStatement .. | forOfStatement .. => [.binding, .expression, .statement]
  | whileStatement .. => [.expression, .statement]
  | doWhileStatement .. => [.statement, .expression]
  | identifier .. | literal .. | thisExpression .. | super .. => []
  | templateLiteral .. | arrayExpression .. | objectExpression .. | spreadElement ..
  | restElement .. | arrayPattern .. | objectPattern .. => [.expression]
  | taggedTemplateExpression .. | assignmentPattern .. => [.expression, .expression]
  | property _ _ kind _ _ method _ =>
    [.expression, if kind == .get || kind == .set || method then .method else .expression]
  | functionExpression .. => [.name, .expression, .block]
  | arrowFunctionExpression .. => [.expression, .arrowBody]
  | methodDefinition .. => [.expression, .method]
  | propertyDefinition .. => [.expression, .expression]
  | classExpression .. => [.name, .expression, .member]
  | unaryExpression .. | updateExpression .. | awaitExpression .. | yieldExpression ..
  | sequenceExpression .. | parenthesizedExpression .. => [.expression]
  | binaryExpression .. | assignmentExpression .. | memberExpression .. | callExpression ..
  | newExpression .. => [.expression, .expression]
  | conditionalExpression .. => [.expression, .expression, .expression]

/-- The node has what it cannot do without: a property its value, a template some text. -/
def isComplete : Node → Bool
  | property _ v _ _ _ _ _ => v.isSome
  | templateLiteral quasis _ _ => !quasis.isEmpty
  | _ => true

end Node

/-! ## Well-formed trees -/

/-- The node is complete, and its slots hold what they ask for. -/
structure Fits (n : Node) : Prop where
  complete : n.isComplete = true
  slots : List.Forall₂ (fun role s => ∀ c ∈ s.nodes, Role.admits role c = true) n.roles n.slots

/-- In all slots of the tree stands what they ask for. -/
def WellFormed (n : Node) : Prop :=
  ∀ d ∈ n.preorder, Fits d

/-- A well-formed tree in a slot that asks for it. -/
structure Stands (role : Role) (n : Node) : Prop where
  admits : role.admits n = true
  wellFormed : WellFormed n

/-- The slot holds well-formed trees of the role. -/
def Slot.Filled (role : Role) (s : Slot) : Prop :=
  ∀ c ∈ s.nodes, Stands role c

/-- A tree is well-formed if it is complete and its slots hold well-formed trees in their roles. -/
theorem wellFormed_iff (n : Node) : WellFormed n ↔ n.isComplete = true
    ∧ List.Forall₂ Slot.Filled n.roles n.slots := by
  have hboth (roles : List Role) (slots : List Slot) : List.Forall₂ Slot.Filled roles slots
      ↔ List.Forall₂ (fun role s => ∀ c ∈ s.nodes, Role.admits role c = true) roles slots
        ∧ ∀ c ∈ slots.flatMap Slot.nodes, WellFormed c := by
    induction slots generalizing roles with
    | nil => cases roles <;> simp
    | cons s slots ih =>
      cases roles with
      | nil => simp
      | cons role roles =>
        simp only [List.forall₂_cons, ih, List.flatMap_cons, List.mem_append]
        constructor
        · rintro ⟨hs, hadmits, hbelow⟩
          refine ⟨⟨fun c hc => (hs c hc).admits, hadmits⟩, ?_⟩
          rintro c (hc | hc)
          · exact (hs c hc).wellFormed
          · exact hbelow c hc
        · rintro ⟨⟨hs, hadmits⟩, hbelow⟩
          exact ⟨fun c hc => ⟨hs c hc, hbelow c (.inl hc)⟩, hadmits, fun c hc => hbelow c (.inr hc)⟩
  have hchildren : WellFormed n ↔ Fits n ∧ ∀ c ∈ n.children, WellFormed c :=
    n.forall_preorder_iff
  rw [hchildren, hboth]
  constructor
  · rintro ⟨hfits, hbelow⟩
    exact ⟨hfits.complete, hfits.slots, hbelow⟩
  · rintro ⟨hcomplete, hslots, hbelow⟩
    exact ⟨⟨hcomplete, hslots⟩, hbelow⟩

section

variable {role : Role} {n : Node}

theorem stands_of_slots (hadmits : role.admits n = true) (hcomplete : n.isComplete = true)
    (h : List.Forall₂ Slot.Filled n.roles n.slots) : Stands role n :=
  ⟨hadmits, (wellFormed_iff n).2 ⟨hcomplete, h⟩⟩

theorem filled_one (h : Stands role n) : (Slot.one n).Filled role := by
  simpa [Slot.Filled, Slot.nodes] using h

theorem filled_none (role : Role) : (Slot.maybe none).Filled role := by
  simp [Slot.Filled, Slot.nodes]

theorem filled_some (h : Stands role n) : (Slot.maybe (some n)).Filled role := by
  simpa [Slot.Filled, Slot.nodes] using h

theorem filled_maybe {o : Option Node} (h : ∀ c ∈ o, Stands role c) :
    (Slot.maybe o).Filled role := by
  simpa [Slot.Filled, Slot.nodes] using h

theorem filled_nil (role : Role) : (Slot.many []).Filled role := by
  simp [Slot.Filled, Slot.nodes]

theorem filled_sparse {os : List (Option Node)} (h : ∀ c, some c ∈ os → Stands role c) :
    (Slot.sparse os).Filled role := by
  simpa [Slot.Filled, Slot.nodes] using h

/-- A tree that fits into one role fits into every other that asks for no more. -/
theorem Stands.imp {role' : Role} (h : Stands role n)
    (himp : role.admits n = true → role'.admits n = true) : Stands role' n :=
  ⟨himp h.admits, h.wellFormed⟩

theorem Stands.binding (h : Stands .expression n) : Stands .binding n :=
  h.imp (by simp +contextual [Role.admits])

theorem Stands.arrowBody (h : Stands .expression n) : Stands .arrowBody n :=
  h.imp (by simp +contextual [Role.admits])

theorem Stands.arrowBody_of_block (h : Stands .block n) : Stands .arrowBody n :=
  h.imp (by simp +contextual [Role.admits])

theorem Stands.statement_of_block (h : Stands .block n) : Stands .statement n :=
  h.imp (by simp +contextual [Role.admits])

theorem stands_identifier (s : String) (p : Text.Position) :
    Stands .expression (.identifier s p) :=
  stands_of_slots rfl rfl .nil

theorem stands_literal (s : String) (k : LiteralKind) (p : Text.Position) :
    Stands .expression (.literal s k p) :=
  stands_of_slots rfl rfl .nil

theorem stands_block {ns : List Node} (h : ∀ c ∈ ns, Stands .statement c) (p : Text.Position) :
    Stands .block (.blockStatement ns p) :=
  stands_of_slots rfl rfl (.cons h .nil)

end

/-! ## What is read off a node alone -/

namespace Node

theorem category_head (n : Node) : n.head.category = n.category := by
  cases n <;> rfl

theorem isIdentifier_head (n : Node) : n.head.isIdentifier = n.isIdentifier := by
  cases n <;> rfl

theorem isFunction_head (n : Node) : n.head.isFunction = n.isFunction := by
  cases n <;> rfl

theorem roles_head (n : Node) : n.head.roles = n.roles := by
  cases n <;> rfl

end Node

theorem Role.admits_head (role : Role) (n : Node) : role.admits n.head = role.admits n := by
  cases role <;>
    simp only [admits, Node.category_head, Node.isIdentifier_head, Node.isFunction_head]

theorem Role.admits_mapBelow (role : Role) (single : Node → Node) (splice : Node → List Node)
    (n : Node) : role.admits (n.mapBelow single splice) = role.admits n := by
  rw [← role.admits_head, Node.head_mapBelow, role.admits_head]

theorem Role.admits_withLoopBody (role : Role) (n body : Node) :
    role.admits (n.withLoopBody body) = role.admits n := by
  have hkept : (n.withLoopBody body).category = n.category
      ∧ (n.withLoopBody body).isIdentifier = n.isIdentifier
      ∧ (n.withLoopBody body).isFunction = n.isFunction := by
    cases n <;> exact ⟨rfl, rfl, rfl⟩
  cases role <;> simp only [admits, hkept]

/-- Only slots for statements take a statement that is neither a block nor a declaration. -/
theorem Role.eq_statement {n : Node} (role : Role) (hadmits : role.admits n = true)
    (hcategory : n.category = .statement) : role = .statement := by
  have hname : n.isIdentifier = false := by
    cases n with
    | identifier => cases hcategory
    | _ => rfl
  have hmethod : n.isFunction = false := by
    cases n with
    | functionExpression => cases hcategory
    | _ => rfl
  cases role <;> simp_all [admits]

/-! ## Changes below a node -/

/-- A node whose slots ask for what they asked for before, and get it. -/
theorem wellFormed_of_slots {n n' : Node} (h : WellFormed n) (hroles : n'.roles = n.roles)
    (hcomplete : n'.isComplete = n.isComplete)
    (hslots : List.Forall₂ (fun s s' => ∀ role, Slot.Filled role s → Slot.Filled role s')
      n.slots n'.slots) : WellFormed n' := by
  rw [wellFormed_iff] at h ⊢
  obtain ⟨hn, hstands⟩ := h
  refine ⟨hcomplete.trans hn, ?_⟩
  rw [hroles]
  generalize n.roles = roles at hstands
  generalize n.slots = slots at hstands hslots
  generalize n'.slots = slots' at hslots
  induction hslots generalizing roles with
  | nil =>
    cases hstands
    exact List.Forall₂.nil
  | cons hs _ ih =>
    cases hstands with
    | cons hrole hrest => exact List.Forall₂.cons (hs _ hrole) (ih _ hrest)

theorem isComplete_mapBelow (single : Node → Node) (splice : Node → List Node) (n : Node) :
    (n.mapBelow single splice).isComplete = n.isComplete := by
  cases n with
  | property k v kind computed shorthand method p => exact Option.isSome_map
  | _ => rfl

/-- A change of the nodes in a slot that keeps their role. -/
theorem filled_map {role : Role} {s : Slot} {single : Node → Node} {splice : Node → List Node}
    (h : s.Filled role)
    (hsingle : ∀ c ∈ s.nodes, Stands role c → Stands role (single c))
    (hsplice : ∀ c ∈ s.nodes, Stands role c → ∀ d ∈ splice c, Stands role d) :
    (s.map single splice).Filled role := by
  cases s with
  | one n =>
    intro c hc
    rw [Slot.map, Slot.nodes, List.mem_singleton] at hc
    subst hc
    have hn : n ∈ (Slot.one n).nodes := List.mem_cons_self
    exact hsingle n hn (h n hn)
  | maybe o =>
    intro c hc
    rw [Slot.map, Slot.nodes, Option.mem_toList, Option.map_eq_some_iff] at hc
    obtain ⟨n, hn, rfl⟩ := hc
    have hn : n ∈ (Slot.maybe o).nodes := Option.mem_toList.2 hn
    exact hsingle n hn (h n hn)
  | many ns =>
    intro c hc
    obtain ⟨n, hn, hc⟩ := List.mem_flatMap.1 hc
    exact hsplice n hn (h n hn) c hc
  | sparse os =>
    intro c hc
    obtain ⟨_, ho', rfl⟩ := List.mem_filterMap.1 hc
    obtain ⟨o, ho, ho'⟩ := List.mem_flatMap.1 ho'
    cases o with
    | none => simp at ho'
    | some n =>
      have hn : n ∈ (Slot.sparse os).nodes := List.mem_filterMap.2 ⟨some n, ho, rfl⟩
      obtain ⟨d, hd, hdc⟩ := List.mem_map.1 ho'
      rw [← Option.some.inj hdc]
      exact hsplice n hn (h n hn) d hd

/-- A change of the nodes directly below a node that keeps their roles. -/
theorem wellFormed_mapBelow {single : Node → Node} {splice : Node → List Node} {n : Node}
    (h : WellFormed n)
    (hbelow : ∀ c ∈ n.children, ∀ role, Stands role c →
      Stands role (single c) ∧ ∀ d ∈ splice c, Stands role d) :
    WellFormed (n.mapBelow single splice) := by
  have hroles : (n.mapBelow single splice).roles = n.roles := by
    rw [← Node.roles_head, Node.head_mapBelow, Node.roles_head]
  refine wellFormed_of_slots h hroles (isComplete_mapBelow single splice n) ?_
  rw [Node.slots_mapBelow, List.forall₂_map_right_iff, List.forall₂_same]
  intro s hs role hslot
  have hmem {c : Node} (hc : c ∈ s.nodes) : c ∈ n.children := List.mem_flatMap.2 ⟨s, hs, hc⟩
  exact filled_map hslot (fun c hc hstands => (hbelow c (hmem hc) role hstands).1)
    fun c hc hstands => (hbelow c (hmem hc) role hstands).2

/-- The body of a loop is a statement. -/
theorem stands_body {n : Node} {l : Loop} (h : WellFormed n) (hl : n.loop? = some l) :
    Stands .statement l.body := by
  obtain ⟨-, hslots⟩ := (wellFormed_iff n).1 h
  cases n <;> simp only [Node.loop?, Option.some.injEq, reduceCtorEq] at hl <;> subst hl <;>
    simp_all [Node.roles, Node.slots, Slot.Filled, Slot.nodes]

/-- A loop with another statement as its body. -/
theorem wellFormed_withLoopBody {n body : Node} (h : WellFormed n) (hbody : Stands .statement body) :
    WellFormed (n.withLoopBody body) := by
  cases n with
  | forStatement | forInStatement | forOfStatement | whileStatement | doWhileStatement =>
    rw [wellFormed_iff] at h ⊢
    simp_all [Node.withLoopBody, Node.isComplete, Node.roles, Node.slots, filled_one hbody]
  | _ => exact h

/-! ## Numbering -/

theorem Role.admits_numberFrom (role : Role) (n : Node) (k : Nat) :
    role.admits (n.numberFrom k).1 = role.admits n := by
  have hid : (n.withLoopId k).category = n.category
      ∧ (n.withLoopId k).isIdentifier = n.isIdentifier
      ∧ (n.withLoopId k).isFunction = n.isFunction := by
    cases n <;> exact ⟨rfl, rfl, rfl⟩
  obtain ⟨ss, he, hshape, -⟩ := n.numberFrom_slots k
  rw [he, ← role.admits_head, Node.head_withSlots hshape, role.admits_head]
  cases role <;> simp only [admits, hid]

/-- The node is a property of an object or pattern. -/
def Node.isProperty : Node → Bool
  | property .. => true
  | _ => false

theorem Node.isProperty_head (n : Node) : n.head.isProperty = n.isProperty := by
  cases n <;> rfl

theorem Node.isComplete_head {n : Node} (h : n.isProperty = false) :
    n.head.isComplete = n.isComplete := by
  cases n with
  | property => simp [isProperty] at h
  | _ => rfl

theorem isComplete_numberFrom (n : Node) (k : Nat) :
    (n.numberFrom k).1.isComplete = n.isComplete := by
  obtain ⟨ss, he, hshape, hslots⟩ := n.numberFrom_slots k
  rw [he]
  by_cases hproperty : n.isProperty = true
  · cases n with
    | property key v kind computed shorthand method p =>
      obtain ⟨s, rest, ⟨hs, -⟩, hrest, rfl⟩ := List.forall₂_cons_left_iff.1 hslots
      obtain ⟨t, rest, ⟨ht, hnodes⟩, hnil, rfl⟩ := List.forall₂_cons_left_iff.1 hrest
      rw [List.forall₂_nil_left_iff] at hnil
      subst hnil
      obtain ⟨key', rfl⟩ := Slot.shape_eq_one.1 hs
      obtain ⟨v', rfl⟩ := Slot.shape_eq_maybe.1 ht
      have hlen : v'.isSome = v.isSome := by
        have hlen := hnodes.length_eq
        cases v <;> cases v' <;> simp_all [Slot.nodes]
      exact hlen
    | _ => simp [Node.isProperty] at hproperty
  · have hproperty : n.isProperty = false := by simpa using hproperty
    have hid : (n.withLoopId k).isProperty = n.isProperty
        ∧ (n.withLoopId k).isComplete = n.isComplete := by
      cases n <;> exact ⟨rfl, rfl⟩
    have hhead := Node.head_withSlots hshape
    have hother : ((n.withLoopId k).withSlots ss).isProperty = false := by
      rw [← Node.isProperty_head, hhead, Node.isProperty_head, hid.1, hproperty]
    rw [← Node.isComplete_head hother, hhead, Node.isComplete_head (hid.1.trans hproperty), hid.2]

/-- Numbering keeps every node in its role. -/
theorem stands_numberFrom {role : Role} {n : Node} (h : Stands role n) (k : Nat) :
    Stands role (n.numberFrom k).1 := by
  induction n using Node.induction_children generalizing role k with
  | h n ih =>
    obtain ⟨ss, he, hshape, hslots⟩ := n.numberFrom_slots k
    have hroles : (n.numberFrom k).1.roles = n.roles := by
      have hid : (n.withLoopId k).roles = n.roles := by
        cases n <;> rfl
      rw [he, ← Node.roles_head, Node.head_withSlots hshape, Node.roles_head, hid]
    refine ⟨(role.admits_numberFrom n k).trans h.admits,
      wellFormed_of_slots h.wellFormed hroles (isComplete_numberFrom n k) ?_⟩
    rw [he, Node.slots_withSlots hshape]
    have hchildren : ∀ s ∈ n.slots, ∀ c ∈ s.nodes, c ∈ n.children := fun s hs c hc =>
      List.mem_flatMap.2 ⟨s, hs, hc⟩
    refine ((List.forall₂_and_left _ _).2 ⟨hchildren, hslots⟩).imp ?_
    rintro s s' ⟨hbelow, -, hnodes⟩ role' hfilled c' hc'
    obtain ⟨c, hc, j, rfl⟩ := exists_of_mem_forall₂ hnodes hc'
    exact ih c (hbelow c hc) (hfilled c hc) j

end LoopBound.Syntax
