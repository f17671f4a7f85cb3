import LoopBound.Proofs.Syntax.WellFormed
import LoopBound.Layout.Printer

/-!
# Well-formed trees are printed

The printer refuses a node that does not fit where it stands. What a slot needs of the node in it is
said role by role (`Printable`); a node whose slots are filled with such nodes is printed as what it
is, and so has what its own slot needs of it. By induction every well-formed tree is printed.
-/

namespace LoopBound.Layout

open LoopBound.Syntax

/-! ## Results -/

section

variable {α β γ : Type} {P : γ → Prop}

/-- The printing comes to a result of which `P` holds. -/
def Yields (P : γ → Prop) (x : Printing γ) : Prop :=
  ∃ c, x = .ok c ∧ P c

/-- The printing comes to a result. -/
def Prints (x : Printing α) : Prop :=
  Yields (fun _ => True) x

theorem yields_ok {c : γ} (h : P c) : Yields P (.ok c) :=
  ⟨c, rfl, h⟩

theorem prints_ok (a : α) : Prints (.ok a) :=
  yields_ok trivial

theorem Prints.yields {x : Printing α} {g : α → Printing γ} (hx : Prints x)
    (hg : ∀ a, Yields P (g a)) : Yields P (x >>= g) := by
  obtain ⟨a, rfl, -⟩ := hx
  exact hg a

theorem prints_bind_iff {x : Printing α} {f : α → Printing β} :
    Prints (x >>= f) ↔ ∃ a b, x = .ok a ∧ f a = .ok b := by
  cases x with
  | error e => simp [Prints, Yields, bind, Except.bind]
  | ok a => simp [Prints, Yields, bind, Except.bind]

/-- What goes on after two steps that print. -/
theorem Prints.yields_after {x : Printing α} {f : α → Printing β} {g : β → Printing γ}
    (h : Prints (x >>= f)) (hg : ∀ b, Yields P (g b)) : Yields P (x >>= fun a => f a >>= g) := by
  obtain ⟨a, b, rfl, hb⟩ := prints_bind_iff.1 h
  show Yields P (f a >>= g)
  rw [hb]
  exact hg b

end

/-! ## What slots need -/

/-- The node is printed within a line. -/
def AsText (n : Node) : Prop :=
  Prints (print n >>= fun o => o.asExpression n)

/-- The node is printed among statements. -/
def AsLines (n : Node) : Prop :=
  Prints (print n >>= fun o => o.asStatement n)

/-- The node is printed below any header, wherever that stands. -/
def UnderHeader (n : Node) : Prop :=
  ∀ place header, Prints (print n >>= fun o => o.under place header n)

/-- The node is printed as what follows a choice. -/
def BehindElse (n : Node) : Prop :=
  ∀ before braced, Prints (alternate before braced (some n))

/-- The output is a piece of text. -/
def IsText (o : Output) : Prop :=
  ∃ f, o = .text f

/-- The output is lines. -/
def IsLines (o : Output) : Prop :=
  ∃ ls, o = .lines ls

/-- The output is a block. -/
def IsBlock (o : Output) : Prop :=
  ∃ inner isEmpty, o = .block inner isEmpty

/-- The output is a declaration. -/
def IsDeclaration (o : Output) : Prop :=
  ∃ f, o = .declaration f

/-- What a slot of the role needs of the node in it. -/
def Printable (role : Role) (n : Node) : Prop :=
  match role with
  | .expression => AsText n ∧ ∀ key, Prints (shorthandValue key (some n))
  | .binding => AsText n
  | .name => Prints (nameOf n)
  | .method => (∀ kind key, Prints (objectMethod kind key (some n)))
      ∧ ∀ words kind key, Prints (classMethod words kind key n)
  | .statement => AsLines n ∧ UnderHeader n ∧ BehindElse n
  | .block => UnderHeader n ∧ Prints (functionBody n)
  | .arrowBody => Yields (fun o => IsBlock o ∨ IsText o) (print n)
  | .declarator => ∀ ds, Prints (declarators ds) → Prints (declarators (n :: ds))
  | .handler => ∀ before, Prints (handler before (some n))
  | .case => ∀ cs, Prints (cases cs) → Prints (cases (n :: cs))
  | .member => ∀ ms, Prints (members ms) → Prints (members (n :: ms))

/-- All nodes in the slot are as the role needs them. -/
def SlotPrintable (role : Role) (s : Slot) : Prop :=
  ∀ c ∈ s.nodes, Printable role c

section

variable {α : Type} {P : α → Prop} {role : Role} {n : Node} {ns : List Node} {o : Option Node}

theorem SlotPrintable.one (h : SlotPrintable role (.one n)) : Printable role n :=
  h n List.mem_cons_self

theorem SlotPrintable.some (h : SlotPrintable role (.maybe (some n))) : Printable role n :=
  h n List.mem_cons_self

/-! ## Printing what is in a slot -/

theorem AsText.yields {g : Fragment → Printing α} (h : AsText n) (hg : ∀ f, Yields P (g f)) :
    Yields P (print n >>= fun o => o.asExpression n >>= g) :=
  Prints.yields_after h hg

theorem UnderHeader.yields {g : Lines → Printing α} (h : UnderHeader n)
    {place : Fragment → Lines} {header : Fragment} (hg : ∀ ls, Yields P (g ls)) :
    Yields P (print n >>= fun o => o.under place header n >>= g) :=
  Prints.yields_after (h place header) hg

theorem AsLines.yields {g : Lines → Printing α} (h : AsLines n) (hg : ∀ ls, Yields P (g ls)) :
    Yields P (print n >>= fun o => o.asStatement n >>= g) :=
  Prints.yields_after h hg

/-- A list is printed if each node prints in front of what is printed. -/
theorem prints_of_cons {f : List Node → Printing α} (hnil : Prints (f []))
    (h : ∀ n ∈ ns, ∀ rest, Prints (f rest) → Prints (f (n :: rest))) : Prints (f ns) := by
  induction ns with
  | nil => exact hnil
  | cons n ns ih =>
    obtain ⟨hn, hns⟩ := List.forall_mem_cons.1 h
    exact hn ns (ih hns)

theorem prints_statements (h : SlotPrintable .statement (.many ns)) : Prints (statements ns) :=
  prints_of_cons (prints_ok _) fun n hn _ hrest =>
    (h n hn).1.yields fun _ => hrest.yields fun _ => prints_ok _

theorem prints_expressions (h : SlotPrintable .expression (.many ns)) : Prints (expressions ns) :=
  prints_of_cons (prints_ok _) fun n hn _ hrest =>
    (h n hn).1.yields fun _ => hrest.yields fun _ => prints_ok _

theorem prints_declarators (h : SlotPrintable .declarator (.many ns)) : Prints (declarators ns) :=
  prints_of_cons (prints_ok _) h

theorem prints_cases (h : SlotPrintable .case (.many ns)) : Prints (cases ns) :=
  prints_of_cons (prints_ok _) h

theorem prints_members (h : SlotPrintable .member (.many ns)) : Prints (members ns) :=
  prints_of_cons (prints_ok _) h

theorem prints_elements {os : List (Option Node)} (h : SlotPrintable .expression (.sparse os)) :
    Prints (elements os) := by
  induction os with
  | nil => exact prints_ok _
  | cons o os ih =>
    have hos : SlotPrintable .expression (.sparse os) := fun c hc => by
      obtain ⟨o', ho', he⟩ := List.mem_filterMap.1 hc
      exact h c (List.mem_filterMap.2 ⟨o', List.mem_cons_of_mem _ ho', he⟩)
    cases o with
    | none => exact (ih hos).yields fun _ => prints_ok _
    | some n =>
      have hn : Printable .expression n := h n (List.mem_filterMap.2 ⟨_, List.mem_cons_self, rfl⟩)
      exact hn.1.yields fun _ => (ih hos).yields fun _ => prints_ok _

theorem prints_template (h : SlotPrintable .expression (.many ns)) (qs : List String) :
    Prints (template ns qs) := by
  induction ns generalizing qs with
  | nil => exact prints_ok _
  | cons n ns ih =>
    obtain ⟨hn, hns⟩ := List.forall_mem_cons.1 h
    cases qs with
    | nil => exact prints_ok _
    | cons q qs => exact hn.1.yields fun _ => (ih hns qs).yields fun _ => prints_ok _

theorem prints_maybe (before : String) (h : ∀ c ∈ o, AsText c) : Prints (maybe before o) := by
  cases o with
  | none => exact prints_ok _
  | some n => exact AsText.yields (h n rfl) fun _ => prints_ok _

theorem prints_maybe_expression (before : String) (h : SlotPrintable .expression (.maybe o)) :
    Prints (maybe before o) :=
  prints_maybe before fun c hc => (h c (Option.mem_toList.2 hc)).1

theorem prints_maybe_binding (before : String) (h : SlotPrintable .binding (.maybe o)) :
    Prints (maybe before o) :=
  prints_maybe before fun c hc => h c (Option.mem_toList.2 hc)

theorem prints_required (h : Printable .expression n) : Prints (required (some n)) :=
  h.1

theorem prints_nameOf? (h : SlotPrintable .name (.maybe o)) : Prints (nameOf? o) := by
  cases o with
  | none => exact prints_ok _
  | some n => exact Prints.yields h.some fun _ => prints_ok _

theorem prints_alternate (before : Lines) (braced : Bool)
    (h : SlotPrintable .statement (.maybe o)) : Prints (alternate before braced o) := by
  cases o with
  | none => exact prints_ok _
  | some n => exact h.some.2.2 before braced

theorem prints_handler (before : Lines) (h : SlotPrintable .handler (.maybe o)) :
    Prints (handler before o) := by
  cases o with
  | none => exact prints_ok _
  | some n => exact h.some before

theorem prints_finalizer (before : Lines) (h : SlotPrintable .block (.maybe o)) :
    Prints (finalizer before o) := by
  cases o with
  | none => exact prints_ok _
  | some n => exact h.some.1 _ _

end

/-! ## Printing a node -/

section

variable {n : Node}

/-- An expression is printed as text. -/
theorem yields_expression (hcategory : n.category = .expression) (hcomplete : n.isComplete = true)
    (h : List.Forall₂ SlotPrintable n.roles n.slots) : Yields IsText (print n) := by
  have text (f : Fragment) : Yields IsText (textOf f) := yields_ok ⟨f, rfl⟩
  cases n with
  | identifier | literal | thisExpression | super => exact text _
  | templateLiteral quasis es p =>
    obtain _ | ⟨hes, _⟩ := h
    cases quasis with
    | nil => simp [Node.isComplete] at hcomplete
    | cons q qs => exact (prints_template hes qs).yields fun _ => text _
  | taggedTemplateExpression t q p =>
    obtain _ | ⟨ht, _ | ⟨hq, _⟩⟩ := h
    exact ht.one.1.yields fun _ => hq.one.1.yields fun _ => text _
  | arrayExpression es p =>
    obtain _ | ⟨hes, _⟩ := h
    exact (prints_elements hes).yields fun _ => text _
  | arrayPattern es p =>
    obtain _ | ⟨hes, _⟩ := h
    exact (prints_elements hes).yields fun _ => text _
  | objectExpression ps p =>
    obtain _ | ⟨hps, _⟩ := h
    exact (prints_expressions hps).yields fun _ => text _
  | objectPattern ps p =>
    obtain _ | ⟨hps, _⟩ := h
    exact (prints_expressions hps).yields fun _ => text _
  | property k v kind computed shorthand method p =>
    obtain _ | ⟨hk, _ | ⟨hv, _⟩⟩ := h
    obtain ⟨value, rfl⟩ := Option.isSome_iff_exists.1 hcomplete
    have hv := hv.some
    refine hk.one.1.yields fun _ => ?_
    split
    · rename_i hmethod
      rw [hmethod] at hv
      exact (hv.1 kind _).yields fun _ => text _
    · rename_i hmethod
      rw [if_neg hmethod] at hv
      split
      · exact (hv.2 _).yields fun _ => text _
      · exact (prints_required hv).yields fun _ => text _
  | spreadElement a p =>
    obtain _ | ⟨ha, _⟩ := h
    exact ha.one.1.yields fun _ => text _
  | restElement a p =>
    obtain _ | ⟨ha, _⟩ := h
    exact ha.one.1.yields fun _ => text _
  | assignmentPattern l r p =>
    obtain _ | ⟨hl, _ | ⟨hr, _⟩⟩ := h
    exact hl.one.1.yields fun _ => hr.one.1.yields fun _ => text _
  | functionExpression id params body isAsync generator p =>
    obtain _ | ⟨hid, _ | ⟨hparams, _ | ⟨hbody, _⟩⟩⟩ := h
    exact (prints_nameOf? hid).yields fun _ => (prints_expressions hparams).yields fun _ =>
      hbody.one.2.yields fun _ => text _
  | arrowFunctionExpression params body isAsync p =>
    obtain _ | ⟨hparams, _ | ⟨hbody, _⟩⟩ := h
    refine (prints_expressions hparams).yields fun _ => ?_
    obtain ⟨o, ho, ⟨inner, isEmpty, rfl⟩ | ⟨f, rfl⟩⟩ := hbody.one
    · rw [ho]
      exact text _
    · rw [ho]
      show Yields IsText (if _ then _ else _)
      split
      · exact text _
      · exact text _
  | classExpression id superclass ms p =>
    obtain _ | ⟨hid, _ | ⟨hsuper, _ | ⟨hms, _⟩⟩⟩ := h
    exact (prints_nameOf? hid).yields fun _ => (prints_maybe_expression _ hsuper).yields fun _ =>
      (prints_members hms).yields fun _ => text _
  | unaryExpression op a p =>
    obtain _ | ⟨ha, _⟩ := h
    refine ha.one.1.yields fun _ => ?_
    split
    · exact text _
    · exact text _
  | updateExpression op a before p =>
    obtain _ | ⟨ha, _⟩ := h
    refine ha.one.1.yields fun _ => ?_
    split
    · exact text _
    · exact text _
  | awaitExpression a p =>
    obtain _ | ⟨ha, _⟩ := h
    exact ha.one.1.yields fun _ => text _
  | yieldExpression a delegate p =>
    obtain _ | ⟨ha, _⟩ := h
    exact (prints_maybe_expression _ ha).yields fun _ => text _
  | binaryExpression op l r p =>
    obtain _ | ⟨hl, _ | ⟨hr, _⟩⟩ := h
    exact hl.one.1.yields fun _ => hr.one.1.yields fun _ => text _
  | assignmentExpression op l r p =>
    obtain _ | ⟨hl, _ | ⟨hr, _⟩⟩ := h
    exact hl.one.1.yields fun _ => hr.one.1.yields fun _ => text _
  | conditionalExpression t c a p =>
    obtain _ | ⟨ht, _ | ⟨hc, _ | ⟨ha, _⟩⟩⟩ := h
    exact ht.one.1.yields fun _ => hc.one.1.yields fun _ => ha.one.1.yields fun _ => text _
  | sequenceExpression es p =>
    obtain _ | ⟨hes, _⟩ := h
    exact (prints_expressions hes).yields fun _ => text _
  | memberExpression o property computed optional p =>
    obtain _ | ⟨ho, _ | ⟨hp, _⟩⟩ := h
    refine ho.one.1.yields fun _ => hp.one.1.yields fun _ => ?_
    split
    · exact text _
    · exact text _
  | callExpression callee args optional p =>
    obtain _ | ⟨hcallee, _ | ⟨hargs, _⟩⟩ := h
    exact (prints_expressions hargs).yields fun _ => hcallee.one.1.yields fun _ => text _
  | newExpression callee hasArguments args p =>
    obtain _ | ⟨hcallee, _ | ⟨hargs, _⟩⟩ := h
    refine hcallee.one.1.yields fun _ => ?_
    split
    · exact (prints_expressions hargs).yields fun _ => text _
    · exact text _
  | parenthesizedExpression e p =>
    obtain _ | ⟨he, _⟩ := h
    exact he.one.1.yields fun _ => text _
  | _ => simp [Node.category] at hcategory

/-- A statement is printed as lines. -/
theorem yields_statement (hcategory : n.category = .statement)
    (h : List.Forall₂ SlotPrintable n.roles n.slots) : Yields IsLines (print n) := by
  have lines (ls : Lines) : Yields IsLines (.ok (.lines ls)) := yields_ok ⟨ls, rfl⟩
  cases n with
  | emptyStatement | debuggerStatement => exact lines _
  | program body p =>
    obtain _ | ⟨hbody, _⟩ := h
    exact (prints_statements hbody).yields fun _ => lines _
  | expressionStatement e p =>
    obtain _ | ⟨he, _⟩ := h
    refine he.one.1.yields fun _ => ?_
    split
    · exact lines _
    · exact lines _
  | functionDeclaration id params body isAsync generator p =>
    obtain _ | ⟨hid, _ | ⟨hparams, _ | ⟨hbody, _⟩⟩⟩ := h
    exact hid.one.yields fun _ => (prints_expressions hparams).yields fun _ =>
      hbody.one.1.yields fun _ => lines _
  | classDeclaration id superclass ms p =>
    obtain _ | ⟨hid, _ | ⟨hsuper, _ | ⟨hms, _⟩⟩⟩ := h
    refine hid.one.yields fun _ => (prints_maybe_expression _ hsuper).yields fun _ => ?_
    split
    · exact lines _
    · exact (prints_members hms).yields fun _ => lines _
  | ifStatement t c a p =>
    obtain _ | ⟨ht, _ | ⟨hc, _ | ⟨ha, _⟩⟩⟩ := h
    exact ht.one.1.yields fun _ => hc.one.2.1.yields fun _ =>
      (prints_alternate _ _ ha).yields fun _ => lines _
  | returnStatement a p =>
    obtain _ | ⟨ha, _⟩ := h
    exact (prints_maybe_expression _ ha).yields fun _ => lines _
  | throwStatement a p =>
    obtain _ | ⟨ha, _⟩ := h
    exact ha.one.1.yields fun _ => lines _
  | breakStatement l p =>
    obtain _ | ⟨hl, _⟩ := h
    refine (prints_nameOf? hl).yields fun name => ?_
    cases name with
    | none => exact lines _
    | some s => exact lines _
  | continueStatement l p =>
    obtain _ | ⟨hl, _⟩ := h
    refine (prints_nameOf? hl).yields fun name => ?_
    cases name with
    | none => exact lines _
    | some s => exact lines _
  | tryStatement b c f p =>
    obtain _ | ⟨hb, _ | ⟨hc, _ | ⟨hf, _⟩⟩⟩ := h
    exact hb.one.1.yields fun _ => (prints_handler _ hc).yields fun _ =>
      (prints_finalizer _ hf).yields fun _ => lines _
  | switchStatement d cs p =>
    obtain _ | ⟨hd, _ | ⟨hcs, _⟩⟩ := h
    refine hd.one.1.yields fun _ => ?_
    split
    · exact lines _
    · exact (prints_cases hcs).yields fun _ => lines _
  | labeledStatement l body p =>
    obtain _ | ⟨hl, _ | ⟨hbody, _⟩⟩ := h
    exact hl.one.yields fun _ => hbody.one.1.yields fun _ => lines _
  | forStatement loop i t u body p =>
    obtain _ | ⟨hi, _ | ⟨ht, _ | ⟨hu, _ | ⟨hbody, _⟩⟩⟩⟩ := h
    exact (prints_maybe_binding _ hi).yields fun _ => (prints_maybe_expression _ ht).yields fun _ =>
      (prints_maybe_expression _ hu).yields fun _ => hbody.one.2.1.yields fun _ => lines _
  | forInStatement loop l r body p =>
    obtain _ | ⟨hl, _ | ⟨hr, _ | ⟨hbody, _⟩⟩⟩ := h
    exact hl.one.yields fun _ => hr.one.1.yields fun _ => hbody.one.2.1.yields fun _ => lines _
  | forOfStatement loop l r body isAwait p =>
    obtain _ | ⟨hl, _ | ⟨hr, _ | ⟨hbody, _⟩⟩⟩ := h
    exact hl.one.yields fun _ => hr.one.1.yields fun _ => hbody.one.2.1.yields fun _ => lines _
  | whileStatement loop t body p =>
    obtain _ | ⟨ht, _ | ⟨hbody, _⟩⟩ := h
    exact ht.one.1.yields fun _ => hbody.one.2.1.yields fun _ => lines _
  | doWhileStatement loop body t p =>
    obtain _ | ⟨hbody, _ | ⟨ht, _⟩⟩ := h
    exact hbody.one.2.1.yields fun _ => ht.one.1.yields fun _ => lines _
  | _ => simp [Node.category] at hcategory

/-- A block is printed as a block. -/
theorem yields_block (hcategory : n.category = .block)
    (h : List.Forall₂ SlotPrintable n.roles n.slots) :
    Yields IsBlock (print n) ∧ Prints (functionBody n) := by
  cases n with
  | blockStatement body p =>
    obtain _ | ⟨hbody, _⟩ := h
    exact ⟨(prints_statements hbody).yields fun _ => yields_ok ⟨_, _, rfl⟩,
      (prints_statements hbody).yields fun _ => prints_ok _⟩
  | _ => simp [Node.category] at hcategory

/-- A declaration is printed as a declaration. -/
theorem yields_declaration (hcategory : n.category = .declaration)
    (h : List.Forall₂ SlotPrintable n.roles n.slots) : Yields IsDeclaration (print n) := by
  cases n with
  | variableDeclaration k ds p =>
    obtain _ | ⟨hds, _⟩ := h
    exact (prints_declarators hds).yields fun _ => yields_ok ⟨_, rfl⟩
  | _ => simp [Node.category] at hcategory

theorem prints_shorthandValue (hcategory : n.category = .expression)
    (h : List.Forall₂ SlotPrintable n.roles n.slots) (key : Fragment) :
    Prints (shorthandValue key (some n)) := by
  cases n with
  | assignmentPattern l r p =>
    obtain _ | ⟨hl, _ | ⟨hr, _⟩⟩ := h
    exact hl.one.1.yields fun _ => hr.one.1.yields fun _ => prints_ok _
  | _ => exact prints_ok key

/-- A function is printed as a member of an object and of a class. -/
theorem printable_method (hfunction : n.isFunction = true)
    (h : List.Forall₂ SlotPrintable n.roles n.slots) : Printable .method n := by
  cases n with
  | functionExpression id params body isAsync generator p =>
    obtain _ | ⟨-, _ | ⟨hparams, _ | ⟨hbody, _⟩⟩⟩ := h
    refine ⟨fun kind key => ?_, fun words kind key => ?_⟩
    · exact (prints_expressions hparams).yields fun _ => hbody.one.2.yields fun _ => prints_ok _
    · exact (prints_expressions hparams).yields fun _ => hbody.one.1 _ _
  | _ => simp [Node.isFunction] at hfunction

theorem printable_name (hidentifier : n.isIdentifier = true) : Printable .name n := by
  cases n with
  | identifier s p => exact prints_ok s
  | _ => simp [Node.isIdentifier] at hidentifier

theorem printable_declarator (hcategory : n.category = .declarator)
    (h : List.Forall₂ SlotPrintable n.roles n.slots) : Printable .declarator n := by
  cases n with
  | variableDeclarator id init p =>
    obtain _ | ⟨hid, _ | ⟨hinit, _⟩⟩ := h
    exact fun ds hds => hid.one.1.yields fun _ => (prints_maybe_expression _ hinit).yields fun _ =>
      hds.yields fun _ => prints_ok _
  | _ => simp [Node.category] at hcategory

theorem printable_handler (hcategory : n.category = .handler)
    (h : List.Forall₂ SlotPrintable n.roles n.slots) : Printable .handler n := by
  cases n with
  | catchClause param body p =>
    obtain _ | ⟨hparam, _ | ⟨hbody, _⟩⟩ := h
    cases param with
    | none => exact fun before => hbody.one.1 _ _
    | some c => exact fun before => hparam.some.1.yields fun _ => hbody.one.1 _ _
  | _ => simp [Node.category] at hcategory

theorem printable_case (hcategory : n.category = .case)
    (h : List.Forall₂ SlotPrintable n.roles n.slots) : Printable .case n := by
  cases n with
  | switchCase test body p =>
    obtain _ | ⟨htest, _ | ⟨hbody, _⟩⟩ := h
    cases test with
    | none =>
      exact fun cs hcs => (prints_statements hbody).yields fun _ => hcs.yields fun _ => prints_ok _
    | some t =>
      exact fun cs hcs => htest.some.1.yields fun _ => (prints_statements hbody).yields fun _ =>
        hcs.yields fun _ => prints_ok _
  | _ => simp [Node.category] at hcategory

theorem printable_member (hcategory : n.category = .member)
    (h : List.Forall₂ SlotPrintable n.roles n.slots) : Printable .member n := by
  cases n with
  | methodDefinition k v kind isStatic computed p =>
    obtain _ | ⟨hk, _ | ⟨hv, _⟩⟩ := h
    exact fun ms hms => hk.one.1.yields fun _ => (hv.one.2 _ _ _).yields fun _ =>
      hms.yields fun _ => prints_ok _
  | propertyDefinition k v isStatic computed p =>
    obtain _ | ⟨hk, _ | ⟨hv, _⟩⟩ := h
    exact fun ms hms => hk.one.1.yields fun _ => (prints_maybe_expression _ hv).yields fun _ =>
      hms.yields fun _ => prints_ok _
  | _ => simp [Node.category] at hcategory

/-! ## What an output is good for -/

theorem asText_of_text (h : Yields IsText (print n)) : AsText n := by
  obtain ⟨o, ho, f, rfl⟩ := h
  exact prints_bind_iff.2 ⟨_, f, ho, rfl⟩

theorem asText_of_declaration (h : Yields IsDeclaration (print n)) : AsText n := by
  obtain ⟨o, ho, f, rfl⟩ := h
  exact prints_bind_iff.2 ⟨_, f, ho, rfl⟩

theorem underHeader_of_block (h : Yields IsBlock (print n)) : UnderHeader n := by
  obtain ⟨o, ho, inner, isEmpty, rfl⟩ := h
  exact fun _ _ => prints_bind_iff.2 ⟨_, _, ho, rfl⟩

/-- A choice goes on behind `else` with its own branches, another node below `else`. -/
theorem behindElse (hunder : UnderHeader n) (h : List.Forall₂ SlotPrintable n.roles n.slots) :
    BehindElse n := by
  cases n with
  | ifStatement t c a p =>
    obtain _ | ⟨ht, _ | ⟨hc, _ | ⟨ha, _⟩⟩⟩ := h
    exact fun before braced => ht.one.1.yields fun _ => hc.one.2.1.yields fun _ =>
      prints_alternate _ _ ha
  | _ => exact fun before braced => hunder _ _

/-- Lines, blocks and declarations stand among statements, below headers and behind `else`. -/
theorem printable_statement (hslots : List.Forall₂ SlotPrintable n.roles n.slots)
    (h : Yields IsLines (print n) ∨ Yields IsBlock (print n) ∨ Yields IsDeclaration (print n)) :
    Printable .statement n := by
  have hstands : AsLines n ∧ UnderHeader n := by
    rcases h with ⟨o, ho, ls, rfl⟩ | ⟨o, ho, inner, isEmpty, rfl⟩ | ⟨o, ho, f, rfl⟩
    · exact ⟨prints_bind_iff.2 ⟨_, _, ho, rfl⟩, fun _ _ => prints_bind_iff.2 ⟨_, _, ho, rfl⟩⟩
    · exact ⟨prints_bind_iff.2 ⟨_, _, ho, rfl⟩, fun _ _ => prints_bind_iff.2 ⟨_, _, ho, rfl⟩⟩
    · exact ⟨prints_bind_iff.2 ⟨_, _, ho, rfl⟩, fun _ _ => prints_bind_iff.2 ⟨_, _, ho, rfl⟩⟩
  exact ⟨hstands.1, hstands.2, behindElse hstands.2 hslots⟩

/-- A node whose slots are filled as they need it has what its own slot needs. -/
theorem printable_of_slots {role : Role} (hadmits : role.admits n = true)
    (hcomplete : n.isComplete = true) (h : List.Forall₂ SlotPrintable n.roles n.slots) :
    Printable role n := by
  cases role <;> simp only [Role.admits, Bool.or_eq_true, decide_eq_true_eq] at hadmits
  case expression =>
    exact ⟨asText_of_text (yields_expression hadmits hcomplete h), prints_shorthandValue hadmits h⟩
  case binding =>
    rcases hadmits with hcategory | hcategory
    · exact asText_of_text (yields_expression hcategory hcomplete h)
    · exact asText_of_declaration (yields_declaration hcategory h)
  case name => exact printable_name hadmits
  case method => exact printable_method hadmits h
  case statement =>
    rcases hadmits with (hcategory | hcategory) | hcategory
    · exact printable_statement h (.inl (yields_statement hcategory h))
    · exact printable_statement h (.inr (.inl (yields_block hcategory h).1))
    · exact printable_statement h (.inr (.inr (yields_declaration hcategory h)))
  case block =>
    obtain ⟨hblock, hbody⟩ := yields_block hadmits h
    exact ⟨underHeader_of_block hblock, hbody⟩
  case arrowBody =>
    rcases hadmits with hcategory | hcategory
    · obtain ⟨o, ho, htext⟩ := yields_expression hcategory hcomplete h
      exact ⟨o, ho, .inr htext⟩
    · obtain ⟨o, ho, hblock⟩ := (yields_block hcategory h).1
      exact ⟨o, ho, .inl hblock⟩
  case declarator => exact printable_declarator hadmits h
  case handler => exact printable_handler hadmits h
  case case => exact printable_case hadmits h
  case member => exact printable_member hadmits h

end

/-! ## Trees -/

/-- **A well-formed tree is printed** wherever its role lets it stand. -/
theorem printable_of_stands {role : Role} {n : Node} (h : Stands role n) : Printable role n := by
  induction n using Node.induction_children generalizing role with
  | h n ih =>
    obtain ⟨hcomplete, hslots⟩ := (wellFormed_iff n).1 h.wellFormed
    have hchildren : ∀ s ∈ n.slots, ∀ c ∈ s.nodes, c ∈ n.children := fun s hs c hc =>
      List.mem_flatMap.2 ⟨s, hs, hc⟩
    refine printable_of_slots h.admits hcomplete ?_
    refine (((List.forall₂_and_left _ _).2 ⟨hchildren, hslots.flip⟩).imp ?_).flip
    rintro s role' ⟨hbelow, hfilled⟩ c hc
    exact ih c (hbelow c hc) (hfilled c hc)

/-- A well-formed statement is printed with any width of the steps. -/
theorem generate_of_stands {n : Node} (h : Stands .statement n) (indent : Int) :
    ∃ text, generate n indent = .ok text := by
  obtain ⟨out, ls, hout, hls⟩ := prints_bind_iff.1 (printable_of_stands h).1
  refine ⟨renderLines indent.toNat ls.lines, ?_⟩
  rw [generate, layout, hout]
  show (do return renderLines indent.toNat (← (do return (← out.asStatement n).lines))) = _
  rw [hls]
  rfl

end LoopBound.Layout
