import LoopBound.Proofs.Reading.Delivers
import LoopBound.Proofs.Reading.Folding

/-!
# Every rule makes what it should

One lemma for each rule: from the parts that its pattern delivers, the shape function of the rule
makes a part of the right kind whose nodes are well-formed. In particular none of the shapes that
mean nothing is ever delivered, and a chain of operators is always folded.
-/

namespace LoopBound.Reading

open LoopBound.Syntax LoopBound.Grammar Part

variable {loc : Text.Position} {ps : List Part}

/-! ## Selecting parts -/

/-- Selecting the nodes of parts of one kind. -/
theorem stands_filterMap {make : Node → Part} {role : Role} {select : Part → Option Node}
    (hselect : ∀ n, select (make n) = some n) (h : ∀ q ∈ ps, Holds make role q) :
    ∀ n ∈ ps.filterMap select, Stands role n := by
  intro n hn
  obtain ⟨q, hq, he⟩ := List.mem_filterMap.1 hn
  obtain ⟨m, rfl, hm⟩ := h q hq
  rw [hselect, Option.some.injEq] at he
  exact he ▸ hm

/-- The entries of a list in brackets. -/
theorem stands_entries {make : Node → Part} {role : Role} {item? : Part → Option Node}
    (hitem : ∀ n, item? (make n) = some n) (hcomma : item? .comma = none)
    (h : ∀ q ∈ ps, q = .comma ∨ Holds make role q) :
    ∀ n, some n ∈ entries item? ps → Stands role n := by
  intro n hn
  obtain ⟨q, hq, he⟩ := mem_entries hn
  rcases h q hq with rfl | ⟨m, rfl, hm⟩
  · simp [hcomma] at he
  · rw [hitem, Option.some.injEq] at he
    exact he ▸ hm

theorem stands_name (s : String) (p : Text.Position) : Stands .name (ident s p) :=
  stands_of_slots rfl rfl .nil

/-! ## Names and marks -/

theorem makes_identifier (h : Handed .identifier ps) : Makes .identifier (identifier ps) := by
  obtain ⟨s, p, _, rfl, -, rfl⟩ := h
  exact ⟨s, p, rfl⟩

theorem makes_propertyIdentifier (h : Handed .propertyIdentifier ps) :
    Makes .propertyIdentifier (propertyIdentifier ps) := by
  rcases h with ⟨s, p, _, rfl, -, rfl⟩ | ⟨s, p, _, rfl, -, rfl⟩
  · exact ⟨_, rfl, stands_identifier s p⟩
  · exact ⟨_, rfl, stands_identifier s p⟩

theorem makes_declarationKind (h : Handed .declarationKind ps) :
    Makes .declarationKind (declarationKind ps) := by
  rcases h with ⟨s, p, _, rfl, -, rfl⟩ | ⟨s, p, _, rfl, -, rfl⟩ | ⟨s, p, _, rfl, -, rfl⟩
  · exact ⟨.var, rfl⟩
  · exact ⟨.let, rfl⟩
  · exact ⟨.const, rfl⟩

theorem makes_accessorKind (h : Handed .accessorKind ps) :
    Makes .accessorKind (accessorKind ps) := by
  rcases h with ⟨s, p, _, rfl, -, rfl⟩ | ⟨s, p, _, rfl, -, rfl⟩
  · exact .inl rfl
  · exact .inr rfl

/-! ## Operands: templates, accesses and calls -/

theorem quasis_ne_nil (ps : List Part) : quasis ps ≠ [] := by
  fun_induction quasis ps with
  | case1 => simp
  | case2 _ s _ ps ih =>
    cases hq : quasis ps with
    | nil => exact absurd hq ih
    | cons => simp [addChunk]
  | case3 => simp

theorem makes_templateLiteral (h : Handed .templateLiteral ps) :
    Makes .templateLiteral (templateLiteral loc ps) := by
  have hspans := forall_of_many_rule h
  refine ⟨_, rfl, stands_of_slots rfl ?_ (.cons ?_ .nil)⟩
  · simpa [Node.isComplete] using quasis_ne_nil ps
  · intro n hn
    obtain ⟨q, hq, he⟩ := List.mem_filterMap.1 hn
    rcases hspans q hq with ⟨m, rfl, hm⟩ | ⟨s, p, rfl⟩
    · exact Option.some.inj he ▸ hm
    · simp [substitution?] at he

theorem makes_templateSubstitution (h : Handed .templateSubstitution ps) :
    Makes .templateSubstitution (ofRule loc .templateSubstitution ps) := by
  obtain ⟨_, _, rfl, ⟨n, rfl, hn⟩, rfl⟩ := h
  exact ⟨n, rfl, hn⟩

theorem makes_dotMember (h : Handed .dotMember ps) : Makes .dotMember (dotMember ps) := by
  obtain ⟨_, _, rfl, ⟨n, rfl, hn⟩, rfl⟩ := h
  exact ⟨n, false, rfl, hn⟩

theorem makes_computedMember (h : Handed .computedMember ps) :
    Makes .computedMember (computedMember ps) := by
  obtain ⟨_, _, rfl, ⟨n, rfl, hn⟩, rfl⟩ := h
  exact ⟨n, true, rfl, hn⟩

theorem makes_arguments (h : Handed .arguments ps) : Makes .arguments (argumentsOf ps) := by
  rcases h with rfl | ⟨_, _, rfl, ⟨ns, rfl, hns⟩, rfl⟩
  · exact ⟨[], rfl, by simp⟩
  · exact ⟨ns, rfl, hns⟩

theorem makes_optionalChain (h : Handed .optionalChain ps) :
    Makes .optionalChain (optionalChain ps) := by
  rcases h with ⟨_, _, rfl, ⟨ns, rfl, hns⟩, rfl⟩ | ⟨_, _, rfl, ⟨n, computed, rfl, hn⟩, rfl⟩
    | ⟨_, _, rfl, ⟨n, rfl, hn⟩, rfl⟩
  · exact ⟨_, rfl, hns⟩
  · exact ⟨_, rfl, hn⟩
  · exact ⟨_, rfl, hn⟩

theorem makes_lhsTail (h : Handed .lhsTail ps) : Makes .lhsTail (operandTail ps) := by
  rcases h with ⟨_, _, rfl, ⟨t, rfl, ht⟩, rfl⟩ | ⟨_, _, rfl, ⟨n, computed, rfl, hn⟩, rfl⟩
    | ⟨_, _, rfl, ⟨n, computed, rfl, hn⟩, rfl⟩ | ⟨_, _, rfl, ⟨ns, rfl, hns⟩, rfl⟩
    | ⟨_, _, rfl, ⟨n, rfl, hn⟩, rfl⟩
  · exact ⟨_, rfl, ht⟩
  · exact ⟨_, rfl, hn⟩
  · exact ⟨_, rfl, hn⟩
  · exact ⟨_, rfl, hns⟩
  · exact ⟨_, rfl, hn⟩

theorem makes_newCalleeTail (h : Handed .newCalleeTail ps) :
    Makes .newCalleeTail (operandTail ps) := by
  rcases h with ⟨_, _, rfl, ⟨n, computed, rfl, hn⟩, rfl⟩
    | ⟨_, _, rfl, ⟨n, computed, rfl, hn⟩, rfl⟩ | ⟨_, _, rfl, ⟨n, rfl, hn⟩, rfl⟩
  · exact ⟨_, rfl, hn⟩
  · exact ⟨_, rfl, hn⟩
  · exact ⟨_, rfl, hn⟩

/-- An operand with its tails is an expression. -/
theorem stands_foldl_apply {ts : List Tail} (hts : ∀ t ∈ ts, SoundTail t) {n : Node}
    (hn : Stands .expression n) : Stands .expression (ts.foldl Tail.apply n) := by
  induction ts generalizing n with
  | nil => exact hn
  | cons t ts ih =>
    obtain ⟨ht, hts⟩ := List.forall_mem_cons.1 hts
    refine ih hts ?_
    cases t with
    | member property computed optional =>
      exact stands_of_slots rfl rfl (.cons (filled_one hn) (.cons (filled_one ht) .nil))
    | call arguments optional =>
      exact stands_of_slots rfl rfl (.cons (filled_one hn) (.cons ht .nil))
    | template quasi =>
      exact stands_of_slots rfl rfl (.cons (filled_one hn) (.cons (filled_one ht) .nil))

theorem holds_operand {q : Part} {qs : List Part} (hq : Holds .expression .expression q)
    (hqs : ∀ q ∈ qs, ∃ t, q = .tail t ∧ SoundTail t) :
    Holds .expression .expression (operand (q :: qs)) := by
  obtain ⟨n, rfl, hn⟩ := hq
  refine ⟨_, rfl, stands_foldl_apply (fun t ht => ?_) hn⟩
  obtain ⟨q, hq, he⟩ := List.mem_filterMap.1 ht
  obtain ⟨t', rfl, ht'⟩ := hqs q hq
  exact Option.some.inj he ▸ ht'

theorem makes_leftHandSideExpression (h : Handed .leftHandSideExpression ps) :
    Makes .leftHandSideExpression (operand ps) := by
  obtain ⟨q, qs, rfl, hq, hqs⟩ := h
  exact holds_operand hq (forall_of_many_rule hqs)

theorem makes_newCallee (h : Handed .newCallee ps) : Makes .newCallee (operand ps) := by
  rcases h with ⟨q, qs, rfl, hq, hqs⟩ | ⟨q, qs, rfl, hq, hqs⟩
  · exact holds_operand hq (forall_of_many_rule hqs)
  · exact holds_operand hq (forall_of_many_rule hqs)

theorem makes_newExpression (h : Handed .newExpression ps) :
    Makes .newExpression (newExpression loc ps) := by
  obtain ⟨_, _, rfl, ⟨n, rfl, hn⟩, rfl | ⟨_, _, rfl, ⟨ns, rfl, hns⟩, rfl⟩⟩ := h
  · exact ⟨_, rfl, stands_of_slots rfl rfl (.cons (filled_one hn) (.cons (filled_nil _) .nil))⟩
  · exact ⟨_, rfl, stands_of_slots rfl rfl (.cons (filled_one hn) (.cons hns .nil))⟩

theorem makes_argument (h : Handed .argument ps) : Makes .argument (argument ps) := by
  rcases h with ⟨_, _, rfl, ⟨n, rfl, hn⟩, rfl⟩ | ⟨_, _, rfl, ⟨n, rfl, hn⟩, rfl⟩
  · exact ⟨n, rfl, hn⟩
  · exact ⟨n, rfl, hn⟩

theorem makes_spreadElement (h : Handed .spreadElement ps) :
    Makes .spreadElement (spreadElement loc ps) := by
  obtain ⟨_, _, rfl, ⟨n, rfl, hn⟩, rfl⟩ := h
  exact ⟨_, rfl, stands_of_slots rfl rfl (.cons (filled_one hn) .nil)⟩

/-! ## Functions, objects and classes -/

theorem makes_block (h : Handed .block ps) : Makes .block (blockOf loc ps) := by
  obtain ⟨_, _, rfl, ⟨ns, rfl, hns⟩, rfl⟩ := h
  exact ⟨_, rfl, stands_of_slots rfl rfl (.cons hns .nil)⟩

theorem makes_functionRest (h : Handed .functionRest ps) :
    Makes .functionRest (functionRest ps) := by
  rcases h with ⟨_, _, rfl, ⟨b, rfl, hb⟩, rfl⟩
    | ⟨_, _, rfl, ⟨ns, rfl, hns⟩, _, _, rfl, ⟨b, rfl, hb⟩, rfl⟩
  · exact ⟨[], b, rfl, by simp, hb⟩
  · exact ⟨ns, b, rfl, hns, hb⟩

theorem makes_computedPropertyName (h : Handed .computedPropertyName ps) :
    Makes .computedPropertyName (computedPropertyName ps) := by
  obtain ⟨_, _, rfl, ⟨n, rfl, hn⟩, rfl⟩ := h
  exact ⟨n, true, rfl, hn⟩

theorem makes_propertyName (h : Handed .propertyName ps) :
    Makes .propertyName (propertyName ps) := by
  rcases h with ⟨s, p, _, rfl, -, rfl⟩ | ⟨s, p, _, rfl, -, rfl⟩ | ⟨s, p, _, rfl, -, rfl⟩
    | ⟨_, _, rfl, ⟨n, computed, rfl, hn⟩, rfl⟩ | ⟨s, p, _, rfl, -, rfl⟩
  · exact ⟨_, false, rfl, stands_identifier s p⟩
  · exact ⟨_, false, rfl, stands_literal s .string p⟩
  · exact ⟨_, false, rfl, stands_literal s .number p⟩
  · exact ⟨n, computed, rfl, hn⟩
  · exact ⟨_, false, rfl, stands_identifier s p⟩

/-- A function that is a member. -/
theorem isMethod_method {key body : Part} {what : MemberKind} (isAsync generator : Bool)
    (hwhat : what = .get ∨ what = .set ∨ what = .init) (hkey : Makes .propertyName key)
    (hbody : Makes .functionRest body) : IsMethod (method loc what isAsync generator [key, body]) := by
  obtain ⟨k, computed, rfl, hk⟩ := hkey
  obtain ⟨ns, b, rfl, hns, hb⟩ := hbody
  refine ⟨k, _, what, computed, what == .init, loc, rfl, ?_, hk, ?_⟩
  · rcases hwhat with rfl | rfl | rfl
    · exact .inl rfl
    · exact .inr (.inl rfl)
    · exact .inr (.inr rfl)
  · exact stands_of_slots rfl rfl (.cons (filled_none _) (.cons hns (.cons (filled_one hb) .nil)))

theorem makes_accessorMethod (h : Handed .accessorMethod ps) :
    Makes .accessorMethod (accessorMethod loc ps) := by
  obtain ⟨_, _, rfl, rfl | rfl, _, _, rfl, hkey, _, _, rfl, hbody, rfl⟩ := h
  · exact isMethod_method _ _ (.inl rfl) hkey hbody
  · exact isMethod_method _ _ (.inr (.inl rfl)) hkey hbody

theorem makes_asyncMethod (h : Handed .asyncMethod ps) :
    Makes .asyncMethod (asyncMethod loc ps) := by
  rcases h with ⟨_, _, rfl, hkey, _, _, rfl, hbody, rfl⟩
    | ⟨_, _, rfl, rfl, _, _, rfl, hkey, _, _, rfl, hbody, rfl⟩
  · obtain ⟨k, computed, rfl, hk⟩ := hkey
    exact isMethod_method _ _ (.inr (.inr rfl)) ⟨k, computed, rfl, hk⟩ hbody
  · exact isMethod_method _ _ (.inr (.inr rfl)) hkey hbody

theorem makes_generatorMethod (h : Handed .generatorMethod ps) :
    Makes .generatorMethod (method loc .init false true ps) := by
  obtain ⟨_, _, rfl, hkey, _, _, rfl, hbody, rfl⟩ := h
  exact isMethod_method _ _ (.inr (.inr rfl)) hkey hbody

theorem makes_plainMethod (h : Handed .plainMethod ps) :
    Makes .plainMethod (method loc .init false false ps) := by
  obtain ⟨_, _, rfl, hkey, _, _, rfl, hbody, rfl⟩ := h
  exact isMethod_method _ _ (.inr (.inr rfl)) hkey hbody

theorem makes_methodDef (h : Handed .methodDef ps) : Makes .methodDef (only ps) := by
  rcases h with ⟨q, _, rfl, hq, rfl⟩ | ⟨q, _, rfl, hq, rfl⟩ | ⟨q, _, rfl, hq, rfl⟩
    | ⟨q, _, rfl, hq, rfl⟩ <;> exact hq

/-- A method is a property of an object. -/
theorem holds_of_isMethod {q : Part} (h : IsMethod q) : Holds .property .expression q := by
  obtain ⟨k, v, what, computed, function, p, rfl, hwhat, hk, hv⟩ := h
  refine ⟨_, rfl, stands_of_slots rfl rfl (.cons (filled_one hk) (.cons (filled_some ?_) .nil))⟩
  have hmethod : (what == .get || what == .set || function) = true := by
    rcases hwhat with rfl | rfl | rfl <;> simp
  rw [hmethod]
  exact hv

/-- A key with its value, which is an expression. -/
theorem stands_property {k v : Node} (computed shorthand : Bool) (hk : Stands .expression k)
    (hv : Stands .expression v) :
    Stands .expression (.property k (some v) .init computed shorthand false loc) :=
  stands_of_slots rfl rfl (.cons (filled_one hk) (.cons (filled_some hv) .nil))

theorem makes_keyedProperty (h : Handed .keyedProperty ps) :
    Makes .keyedProperty (keyedProperty loc ps) := by
  obtain ⟨_, _, rfl, ⟨k, computed, rfl, hk⟩, _, _, rfl, ⟨v, rfl, hv⟩, rfl⟩ := h
  exact ⟨_, rfl, stands_property _ _ hk hv⟩

theorem makes_keyedPatternProperty (h : Handed .keyedPatternProperty ps) :
    Makes .keyedPatternProperty (keyedProperty loc ps) := by
  obtain ⟨_, _, rfl, ⟨k, computed, rfl, hk⟩, _, _, rfl, ⟨v, rfl, hv⟩, rfl⟩ := h
  exact ⟨_, rfl, stands_property _ _ hk hv⟩

theorem makes_shorthandProperty (h : Handed .shorthandProperty ps) :
    Makes .shorthandProperty (shorthandProperty ps) := by
  obtain ⟨_, _, rfl, ⟨s, p, rfl⟩, rfl⟩ := h
  exact ⟨_, rfl, stands_property _ _ (stands_identifier s p) (stands_identifier s p)⟩

theorem makes_propertyDefinition (h : Handed .propertyDefinition ps) :
    Makes .propertyDefinition (propertyDefinition ps) := by
  rcases h with ⟨_, _, rfl, ⟨n, rfl, hn⟩, rfl⟩ | ⟨_, _, rfl, ⟨n, rfl, hn⟩, rfl⟩
    | ⟨_, _, rfl, hq, rfl⟩ | ⟨_, _, rfl, ⟨n, rfl, hn⟩, rfl⟩
  · exact ⟨n, rfl, hn⟩
  · exact ⟨n, rfl, hn⟩
  · obtain ⟨n, rfl, hn⟩ := holds_of_isMethod hq
    exact ⟨n, rfl, hn⟩
  · exact ⟨n, rfl, hn⟩

theorem makes_objectLiteral (h : Handed .objectLiteral ps) :
    Makes .objectLiteral (objectLiteral loc ps) := by
  rcases h with rfl | ⟨_, _, rfl, ⟨ns, rfl, hns⟩, rfl⟩
  · exact ⟨_, rfl, stands_of_slots rfl rfl (.cons (filled_nil _) .nil)⟩
  · exact ⟨_, rfl, stands_of_slots rfl rfl (.cons hns .nil)⟩

theorem makes_methodDefinition (h : Handed .methodDefinition ps) :
    Makes .methodDefinition (methodDefinition loc ps) := by
  rcases h with ⟨_, _, rfl, hq, rfl⟩ | ⟨_, _, rfl, rfl, _, _, rfl, hq, rfl⟩ <;>
    obtain ⟨k, v, what, computed, function, p, rfl, -, hk, hv⟩ := hq <;>
    exact ⟨_, rfl, stands_of_slots rfl rfl (.cons (filled_one hk) (.cons (filled_one hv) .nil))⟩

theorem makes_classField (h : Handed .classField ps) :
    Makes .classField (classField loc ps) := by
  have hfield {k : Node} {v : Option Node} (isStatic computed : Bool) (hk : Stands .expression k)
      (hv : ∀ n ∈ v, Stands .expression n) :
      Stands .member (.propertyDefinition k v isStatic computed loc) :=
    stands_of_slots rfl rfl (.cons (filled_one hk) (.cons (filled_maybe hv) .nil))
  rcases h with h | ⟨_, _, rfl, rfl, h⟩ <;>
    obtain ⟨_, _, rfl, ⟨k, computed, rfl, hk⟩, rfl | ⟨_, _, rfl, ⟨v, rfl, hv⟩, rfl⟩⟩ := h
  · exact ⟨_, rfl, hfield _ _ hk (by simp)⟩
  · exact ⟨_, rfl, hfield _ _ hk (by simpa using hv)⟩
  · exact ⟨_, rfl, hfield _ _ hk (by simp)⟩
  · exact ⟨_, rfl, hfield _ _ hk (by simpa using hv)⟩

theorem makes_classMember (h : Handed .classMember ps) : Makes .classMember (only ps) := by
  rcases h with ⟨q, _, rfl, hq, rfl⟩ | ⟨q, _, rfl, hq, rfl⟩ | ⟨_, _, rfl, ⟨n, rfl, hn⟩, rfl⟩
  · exact .inl hq
  · exact .inl hq
  · exact .inr ⟨n, rfl⟩

/-- A semicolon between members adds no member. -/
theorem makes_classMembers (h : Handed .classMembers ps) :
    Makes .classMembers (members (ps.filterMap member?)) := by
  refine ⟨_, rfl, fun n hn => ?_⟩
  obtain ⟨q, hq, he⟩ := List.mem_filterMap.1 hn
  rcases forall_of_many_layout h q hq with ⟨m, rfl, hm⟩ | ⟨m, rfl⟩
  · exact Option.some.inj he ▸ hm
  · simp [member?] at he

theorem makes_classHeritage (h : Handed .classHeritage ps) :
    Makes .classHeritage (classHeritage ps) := by
  obtain ⟨_, _, rfl, ⟨n, rfl, hn⟩, rfl⟩ := h
  exact ⟨n, rfl, hn⟩

theorem makes_classTail (h : Handed .classTail ps) : Makes .classTail (classTailOf ps) := by
  rcases h with ⟨_, _, rfl, ⟨ns, rfl, hns⟩, rfl⟩
    | ⟨_, _, rfl, ⟨n, rfl, hn⟩, _, _, rfl, ⟨ns, rfl, hns⟩, rfl⟩
  · exact ⟨none, ns, rfl, by simp, hns⟩
  · exact ⟨some n, ns, rfl, by simpa using hn, hns⟩

theorem makes_classExpression (h : Handed .classExpression ps) :
    Makes .classExpression (classExpression loc ps) := by
  rcases h with ⟨_, _, rfl, ⟨c, ns, rfl, hc, hns⟩, rfl⟩
    | ⟨_, _, rfl, ⟨s, p, rfl⟩, _, _, rfl, ⟨c, ns, rfl, hc, hns⟩, rfl⟩
  · exact ⟨_, rfl, stands_of_slots rfl rfl
      (.cons (filled_none _) (.cons (filled_maybe hc) (.cons hns .nil)))⟩
  · exact ⟨_, rfl, stands_of_slots rfl rfl
      (.cons (filled_some (stands_name s p)) (.cons (filled_maybe hc) (.cons hns .nil)))⟩

theorem makes_functionExpression (h : Handed .functionExpression ps) :
    Makes .functionExpression (functionExpression loc ps) := by
  obtain ⟨_, _, rfl, ⟨isAsync, generator, rfl⟩, ⟨_, _, rfl, ⟨ns, b, rfl, hns, hb⟩, rfl⟩
    | ⟨_, _, rfl, ⟨s, p, rfl⟩, _, _, rfl, ⟨ns, b, rfl, hns, hb⟩, rfl⟩⟩ := h
  · exact ⟨_, rfl, stands_of_slots rfl rfl
      (.cons (filled_none _) (.cons hns (.cons (filled_one hb) .nil)))⟩
  · exact ⟨_, rfl, stands_of_slots rfl rfl
      (.cons (filled_some (stands_name s p)) (.cons hns (.cons (filled_one hb) .nil)))⟩

/-! ## Expressions -/

theorem makes_primaryExpression (h : Handed .primaryExpression ps) :
    Makes .primaryExpression (primaryExpression ps) := by
  rcases h with ⟨s, p, _, rfl, -, rfl⟩ | ⟨s, p, _, rfl, -, rfl⟩ | ⟨_, _, rfl, ⟨n, rfl, hn⟩, rfl⟩
    | ⟨_, _, rfl, ⟨n, rfl, hn⟩, rfl⟩ | ⟨s, p, _, rfl, -, rfl⟩ | ⟨s, p, _, rfl, -, rfl⟩
    | ⟨s, p, _, rfl, -, rfl⟩ | ⟨_, _, rfl, ⟨n, rfl, hn⟩, rfl⟩ | ⟨s, p, _, rfl, -, rfl⟩
    | ⟨_, _, rfl, ⟨n, rfl, hn⟩, rfl⟩ | ⟨_, _, rfl, ⟨n, rfl, hn⟩, rfl⟩
    | ⟨_, _, rfl, ⟨n, rfl, hn⟩, rfl⟩ | ⟨_, _, rfl, ⟨s, p, rfl⟩, rfl⟩
  · exact ⟨_, rfl, stands_of_slots rfl rfl .nil⟩
  · exact ⟨_, rfl, stands_of_slots rfl rfl .nil⟩
  · exact ⟨n, rfl, hn⟩
  · exact ⟨n, rfl, hn⟩
  · exact ⟨_, rfl, stands_literal _ _ p⟩
  · exact ⟨_, rfl, stands_literal s .number p⟩
  · exact ⟨_, rfl, stands_literal s .string p⟩
  · exact ⟨n, rfl, hn⟩
  · exact ⟨_, rfl, stands_literal s .regex p⟩
  · exact ⟨n, rfl, hn⟩
  · exact ⟨n, rfl, hn⟩
  · exact ⟨n, rfl, hn⟩
  · exact ⟨_, rfl, stands_identifier s p⟩

theorem makes_arrayLiteral (h : Handed .arrayLiteral ps) :
    Makes .arrayLiteral (arrayLiteral loc ps) := by
  have hentries := @stands_entries ps item .expression item? (fun _ => rfl) rfl (forall_of_slots h)
  exact ⟨_, rfl, stands_of_slots rfl rfl (.cons (filled_sparse hentries) .nil)⟩

theorem makes_parenthesizedExpression (h : Handed .parenthesizedExpression ps) :
    Makes .parenthesizedExpression (parenthesizedExpression loc ps) := by
  obtain ⟨_, _, rfl, ⟨n, rfl, hn⟩, rfl⟩ := h
  exact ⟨_, rfl, stands_of_slots rfl rfl (.cons (filled_one hn) .nil)⟩

theorem makes_postfixExpression (h : Handed .postfixExpression ps) :
    Makes .postfixExpression (postfixExpression ps) := by
  obtain ⟨_, _, rfl, ⟨n, rfl, hn⟩, rfl | ⟨_, _, rfl, ⟨s, p, rfl⟩, rfl⟩⟩ := h
  · exact ⟨n, rfl, hn⟩
  · exact ⟨_, rfl, stands_of_slots rfl rfl (.cons (filled_one hn) .nil)⟩

theorem makes_awaitExpression (h : Handed .awaitExpression ps) :
    Makes .awaitExpression (awaitExpression loc ps) := by
  obtain ⟨_, _, rfl, ⟨n, rfl, hn⟩, rfl⟩ := h
  exact ⟨_, rfl, stands_of_slots rfl rfl (.cons (filled_one hn) .nil)⟩

theorem makes_prefixExpression (h : Handed .prefixExpression ps) :
    Makes .prefixExpression (prefixExpression loc ps) := by
  obtain ⟨s, p, _, rfl, -, _, _, rfl, ⟨n, rfl, hn⟩, rfl⟩ := h
  show Holds .expression .expression (if s == "++" || s == "--" then
    expression (.updateExpression s n true loc) else expression (.unaryExpression s n loc))
  split
  · exact ⟨_, rfl, stands_of_slots rfl rfl (.cons (filled_one hn) .nil)⟩
  · exact ⟨_, rfl, stands_of_slots rfl rfl (.cons (filled_one hn) .nil)⟩

theorem makes_unaryExpression (h : Handed .unaryExpression ps) :
    Makes .unaryExpression (only ps) := by
  rcases h with ⟨q, _, rfl, hq, rfl⟩ | ⟨q, _, rfl, hq, rfl⟩ | ⟨q, _, rfl, hq, rfl⟩ <;> exact hq

theorem makes_conditionalTail (h : Handed .conditionalTail ps) :
    Makes .conditionalTail (conditionalTail ps) := by
  obtain ⟨_, _, rfl, ⟨c, rfl, hc⟩, _, _, rfl, ⟨a, rfl, ha⟩, rfl⟩ := h
  exact ⟨c, a, rfl, hc, ha⟩

theorem makes_conditionalExpression (h : Handed .conditionalExpression ps) :
    Makes .conditionalExpression (conditionalExpression ps) := by
  obtain ⟨_, _, rfl, ⟨n, rfl, hn⟩, rfl | ⟨_, _, rfl, ⟨c, a, rfl, hc, ha⟩, rfl⟩⟩ := h
  · exact ⟨n, rfl, hn⟩
  · exact ⟨_, rfl, stands_of_slots rfl rfl
      (.cons (filled_one hn) (.cons (filled_one hc) (.cons (filled_one ha) .nil)))⟩

theorem makes_parenthesizedParameters (h : Handed .parenthesizedParameters ps) :
    Makes .parenthesizedParameters (parenthesizedParameters ps) := by
  rcases h with rfl | ⟨_, _, rfl, ⟨ns, rfl, hns⟩, rfl⟩
  · exact ⟨[], rfl, by simp⟩
  · exact ⟨ns, rfl, hns⟩

theorem makes_arrowParameters (h : Handed .arrowParameters ps) :
    Makes .arrowParameters (arrowParameters ps) := by
  rcases h with ⟨_, _, rfl, ⟨s, p, rfl⟩, rfl⟩ | ⟨_, _, rfl, ⟨ns, rfl, hns⟩, rfl⟩
  · exact ⟨_, rfl, List.forall_mem_singleton.2 (stands_identifier s p)⟩
  · exact ⟨ns, rfl, hns⟩

theorem makes_arrowBody (h : Handed .arrowBody ps) : Makes .arrowBody (arrowBody ps) := by
  rcases h with ⟨_, _, rfl, ⟨n, rfl, hn⟩, rfl⟩ | ⟨_, _, rfl, ⟨n, rfl, hn⟩, rfl⟩
  · exact ⟨n, rfl, hn.arrowBody_of_block⟩
  · exact ⟨n, rfl, hn.arrowBody⟩

theorem makes_arrowFunction (h : Handed .arrowFunction ps) :
    Makes .arrowFunction (arrowFunction loc ps) := by
  rcases h with ⟨_, _, rfl, ⟨ns, rfl, hns⟩, _, _, rfl, ⟨b, rfl, hb⟩, rfl⟩
    | ⟨_, _, rfl, rfl, _, _, rfl, ⟨ns, rfl, hns⟩, _, _, rfl, ⟨b, rfl, hb⟩, rfl⟩
  · exact ⟨_, rfl, stands_of_slots rfl rfl (.cons hns (.cons (filled_one hb) .nil))⟩
  · exact ⟨_, rfl, stands_of_slots rfl rfl (.cons hns (.cons (filled_one hb) .nil))⟩

theorem makes_yieldExpression (h : Handed .yieldExpression ps) :
    Makes .yieldExpression (yieldExpression loc ps) := by
  have hyield {o : Option Node} (delegate : Bool) (ho : ∀ n ∈ o, Stands .expression n) :
      Stands .expression (.yieldExpression o delegate loc) :=
    stands_of_slots rfl rfl (.cons (filled_maybe ho) .nil)
  rcases h with (rfl | ⟨_, _, rfl, ⟨n, rfl, hn⟩, rfl⟩)
    | ⟨_, _, rfl, rfl, rfl | ⟨_, _, rfl, ⟨n, rfl, hn⟩, rfl⟩⟩
  · exact ⟨_, rfl, hyield _ (by simp)⟩
  · exact ⟨_, rfl, hyield _ (by simpa using hn)⟩
  · exact ⟨_, rfl, hyield _ (by simp)⟩
  · exact ⟨_, rfl, hyield _ (by simpa using hn)⟩

theorem makes_assignment (h : Handed .assignment ps) : Makes .assignment (assignment ps) := by
  obtain ⟨_, _, rfl, ⟨l, rfl, hl⟩, s, p, _, rfl, -, _, _, rfl, ⟨r, rfl, hr⟩, rfl⟩ := h
  exact ⟨_, rfl, stands_of_slots rfl rfl (.cons (filled_one hl) (.cons (filled_one hr) .nil))⟩

theorem makes_assignmentExpression (h : Handed .assignmentExpression ps) :
    Makes .assignmentExpression (only ps) := by
  rcases h with ⟨q, _, rfl, hq, rfl⟩ | ⟨q, _, rfl, hq, rfl⟩ | ⟨q, _, rfl, hq, rfl⟩
    | ⟨q, _, rfl, hq, rfl⟩ <;> exact hq

theorem filterMap_expression? (h : ∀ q ∈ ps, Holds .expression .expression q) :
    ∃ ns, ps = ns.map expression ∧ ps.filterMap expression? = ns
      ∧ ∀ n ∈ ns, Stands .expression n := by
  induction ps with
  | nil => exact ⟨[], rfl, rfl, by simp⟩
  | cons q qs ih =>
    obtain ⟨⟨n, rfl, hn⟩, hqs⟩ := List.forall_mem_cons.1 h
    obtain ⟨ns, rfl, hns, hall⟩ := ih hqs
    exact ⟨n :: ns, rfl, congrArg (n :: ·) hns, List.forall_mem_cons.2 ⟨hn, hall⟩⟩

theorem makes_expression (h : Handed .expression ps) : Makes .expression (sequenceOf ps) := by
  obtain ⟨hne, hall⟩ := forall_of_commaSeparated h
  obtain ⟨ns, rfl, hns, hstands⟩ := filterMap_expression? hall
  rw [sequenceOf, hns]
  match ns with
  | [] => exact absurd rfl hne
  | [n] => exact ⟨n, rfl, hstands n List.mem_cons_self⟩
  | n :: m :: ms => exact ⟨_, rfl, stands_of_slots rfl rfl (.cons hstands .nil)⟩

/-! ## Chains of operators -/

theorem stands_joined {left right : Node} (op : BinaryOperator) (hl : Stands .expression left)
    (hr : Stands .expression right) : Stands .expression (joined left op right) :=
  stands_of_slots rfl rfl (.cons (filled_one hl) (.cons (filled_one hr) .nil))

/-- The spelling of an operator between operands. -/
def operator? : Part → Option String
  | .token .binaryOperator s _ => some s
  | _ => none

/-- The rest of a chain pairs every operator with its right operand. -/
theorem chainRest_of_rounds {rounds : List (List Part)}
    (h : ∀ qs ∈ rounds, Delivers (.sequence [.layout, .token .binaryOperator, .layout,
      .rule .unaryExpression]) (· = []) qs) :
    ∃ rest, chainRest rounds.flatten = some rest
      ∧ pairOperators (rounds.flatten.filterMap operator?)
          (rounds.flatten.filterMap expression?) = .ok rest
      ∧ (rounds.flatten.filterMap expression?).length
          = (rounds.flatten.filterMap operator?).length
      ∧ ∀ x ∈ rest, Stands .expression x.2 := by
  induction rounds with
  | nil => exact ⟨[], rfl, rfl, rfl, by simp⟩
  | cons qs rounds ih =>
    obtain ⟨hround, hrounds⟩ := List.forall_mem_cons.1 h
    obtain ⟨s, p, _, rfl, hs, _, _, rfl, ⟨n, rfl, hn⟩, rfl⟩ := hround
    obtain ⟨rest, hrest, hpairs, hlen, hstands⟩ := ih hrounds
    obtain ⟨op, hop⟩ := Option.isSome_iff_exists.1 hs
    refine ⟨(op, n) :: rest, ?_, ?_, congrArg (· + 1) hlen, List.forall_mem_cons.2 ⟨hn, hstands⟩⟩
    · show chainRest (.token .binaryOperator s p :: .expression n :: rounds.flatten) = _
      rw [chainRest, hop, hrest]
    · show pairOperators (s :: rounds.flatten.filterMap operator?)
        (n :: rounds.flatten.filterMap expression?) = _
      rw [pairOperators, hop, hpairs]
      rfl

/-- **A chain that was read is always folded**: there are as many operators as right operands, and
every spelling is that of an operator. -/
theorem foldBinary_of_handed (h : Handed .binaryExpression ps) :
    ∃ n, foldBinary (ps.filterMap expression?) (ps.filterMap operator?) = .ok n
      ∧ binaryExpression ps = .expression n ∧ Stands .expression n := by
  obtain ⟨_, _, rfl, ⟨n, rfl, hn⟩, rounds, _, rfl, hrounds, rfl⟩ := h
  obtain ⟨rest, hrest, hpairs, hlen, hstands⟩ := chainRest_of_rounds hrounds
  refine ⟨foldChain n rest, ?_, ?_,
    foldChain_induction (fun _ op _ => stands_joined op) hn hstands⟩
  · show foldBinary (n :: (rounds.flatten ++ []).filterMap expression?)
      ((rounds.flatten ++ []).filterMap operator?) = _
    rw [List.append_nil, foldBinary, if_pos hlen, hpairs]
    rfl
  · rw [List.append_nil, binaryExpression, hrest]

theorem makes_binaryExpression (h : Handed .binaryExpression ps) :
    Makes .binaryExpression (binaryExpression ps) := by
  obtain ⟨n, -, he, hn⟩ := foldBinary_of_handed h
  exact ⟨n, he, hn⟩

/-! ## Binding patterns -/

theorem makes_restElement (h : Handed .restElement ps) :
    Makes .restElement (restElement loc ps) := by
  obtain ⟨_, _, rfl, ⟨n, rfl, hn⟩, rfl⟩ := h
  exact ⟨_, rfl, stands_of_slots rfl rfl (.cons (filled_one hn) .nil)⟩

theorem makes_objectPattern (h : Handed .objectPattern ps) :
    Makes .objectPattern (objectPattern loc ps) := by
  rcases h with rfl | ⟨_, _, rfl, ⟨ns, rfl, hns⟩, rfl⟩
  · exact ⟨_, rfl, stands_of_slots rfl rfl (.cons (filled_nil _) .nil)⟩
  · exact ⟨_, rfl, stands_of_slots rfl rfl (.cons hns .nil)⟩

theorem makes_arrayPattern (h : Handed .arrayPattern ps) :
    Makes .arrayPattern (arrayPattern loc ps) := by
  have hentries :=
    @stands_entries ps pattern .expression pattern? (fun _ => rfl) rfl (forall_of_slots h)
  exact ⟨_, rfl, stands_of_slots rfl rfl (.cons (filled_sparse hentries) .nil)⟩

theorem makes_bindingTarget (h : Handed .bindingTarget ps) :
    Makes .bindingTarget (bindingTarget ps) := by
  rcases h with ⟨_, _, rfl, ⟨n, rfl, hn⟩, rfl⟩ | ⟨_, _, rfl, ⟨n, rfl, hn⟩, rfl⟩
    | ⟨_, _, rfl, ⟨s, p, rfl⟩, rfl⟩
  · exact ⟨n, rfl, hn⟩
  · exact ⟨n, rfl, hn⟩
  · exact ⟨_, rfl, stands_identifier s p⟩

theorem makes_bindingElement (h : Handed .bindingElement ps) :
    Makes .bindingElement (bindingElement ps) := by
  obtain ⟨_, _, rfl, ⟨n, rfl, hn⟩, rfl | ⟨_, _, rfl, ⟨d, rfl, hd⟩, rfl⟩⟩ := h
  · exact ⟨n, rfl, hn⟩
  · exact ⟨_, rfl, stands_of_slots rfl rfl (.cons (filled_one hn) (.cons (filled_one hd) .nil))⟩

/-- A pattern without a key: where it binds a name, the name is the key. -/
theorem holds_patternProperty {n : Node} (hn : Stands .expression n) :
    Holds .property .expression (patternProperty [pattern n]) := by
  unfold patternProperty
  split
  · simp_all
  · rename_i s p he
    simp only [List.cons.injEq, pattern.injEq, and_true] at he
    subst he
    exact ⟨_, rfl, stands_property _ _ (stands_identifier s p) hn⟩
  · rename_i s p d q he
    simp only [List.cons.injEq, pattern.injEq, and_true] at he
    subst he
    exact ⟨_, rfl, stands_property _ _ (stands_identifier s p) hn⟩
  · rename_i he
    simp only [List.cons.injEq, pattern.injEq, and_true] at he
    subst he
    exact ⟨_, rfl, hn⟩
  · simp_all

theorem makes_patternProperty (h : Handed .patternProperty ps) :
    Makes .patternProperty (patternProperty ps) := by
  rcases h with ⟨_, _, rfl, ⟨n, rfl, hn⟩, rfl⟩ | ⟨_, _, rfl, ⟨n, rfl, hn⟩, rfl⟩
    | ⟨_, _, rfl, ⟨n, rfl, hn⟩, rfl⟩
  · exact holds_patternProperty hn
  · exact ⟨n, rfl, hn⟩
  · exact holds_patternProperty hn

theorem makes_arrayPatternItem (h : Handed .arrayPatternItem ps) :
    Makes .arrayPatternItem (only ps) := by
  rcases h with ⟨q, _, rfl, hq, rfl⟩ | ⟨q, _, rfl, hq, rfl⟩ <;> exact hq

theorem makes_formalParameter (h : Handed .formalParameter ps) :
    Makes .formalParameter (only ps) := by
  rcases h with ⟨q, _, rfl, hq, rfl⟩ | ⟨q, _, rfl, hq, rfl⟩ <;> exact hq

/-! ## Declarations and loop headers -/

theorem makes_variableDeclarator (h : Handed .variableDeclarator ps) :
    Makes .variableDeclarator (variableDeclarator ps) := by
  obtain ⟨_, _, rfl, ⟨n, rfl, hn⟩, rfl | ⟨_, _, rfl, ⟨v, rfl, hv⟩, rfl⟩⟩ := h
  · exact ⟨_, rfl, stands_of_slots rfl rfl (.cons (filled_one hn) (.cons (filled_none _) .nil))⟩
  · exact ⟨_, rfl, stands_of_slots rfl rfl (.cons (filled_one hn) (.cons (filled_some hv) .nil))⟩

/-- A declaration stands among statements as well as in the header of a loop. -/
theorem stands_declaration {ds : List Node} (k : VariableKind)
    (hds : ∀ n ∈ ds, Stands .declarator n) :
    Stands .binding (.variableDeclaration k ds loc)
      ∧ Stands .statement (.variableDeclaration k ds loc) :=
  ⟨stands_of_slots rfl rfl (.cons hds .nil), stands_of_slots rfl rfl (.cons hds .nil)⟩

theorem makes_variableDeclaration (h : Handed .variableDeclaration ps) :
    Makes .variableDeclaration (variableDeclaration loc ps) := by
  obtain ⟨_, qs, rfl, ⟨k, rfl⟩, h⟩ := h
  have hds := @stands_filterMap qs declarator .declarator declarator? (fun _ => rfl)
    (forall_of_commaSeparated h).2
  exact ⟨_, rfl, stands_declaration k hds⟩

theorem makes_forDeclaration (h : Handed .forDeclaration ps) :
    Makes .forDeclaration (forDeclaration loc ps) := by
  obtain ⟨_, _, rfl, ⟨k, rfl⟩, _, _, rfl, ⟨n, rfl, hn⟩, rfl⟩ := h
  have hd : Stands .declarator (.variableDeclarator n none n.loc) :=
    stands_of_slots rfl rfl (.cons (filled_one hn) (.cons (filled_none _) .nil))
  exact ⟨_, rfl, stands_declaration k (by simpa using hd)⟩

theorem makes_variableStatement (h : Handed .variableStatement ps) :
    Makes .variableStatement (variableStatement ps) := by
  obtain ⟨_, _, rfl, ⟨n, rfl, -, hn⟩, rfl⟩ := h
  exact ⟨n, rfl, hn⟩

theorem makes_forInit (h : Handed .forInit ps) : Makes .forInit (forInit ps) := by
  rcases h with ⟨_, _, rfl, ⟨n, rfl, hn, -⟩, rfl⟩ | ⟨_, _, rfl, ⟨n, rfl, hn⟩, rfl⟩
  · exact ⟨n, rfl, hn⟩
  · exact ⟨n, rfl, hn.binding⟩

theorem makes_forTest (h : Handed .forTest ps) : Makes .forTest (forTest ps) := by
  obtain ⟨_, _, rfl, ⟨n, rfl, hn⟩, rfl⟩ := h
  exact ⟨n, rfl, hn⟩

theorem makes_forUpdate (h : Handed .forUpdate ps) : Makes .forUpdate (forUpdate ps) := by
  obtain ⟨_, _, rfl, ⟨n, rfl, hn⟩, rfl⟩ := h
  exact ⟨n, rfl, hn⟩

theorem makes_forBinding (h : Handed .forBinding ps) : Makes .forBinding (forBinding ps) := by
  rcases h with ⟨_, _, rfl, ⟨n, rfl, hn, -⟩, rfl⟩ | ⟨_, _, rfl, ⟨n, rfl, hn⟩, rfl⟩
  · exact ⟨n, rfl, hn⟩
  · exact ⟨n, rfl, hn.binding⟩

/-! ## Loops -/

theorem stands_forStatement {i t u : Option Node} {b : Node} (hi : ∀ n ∈ i, Stands .binding n)
    (ht : ∀ n ∈ t, Stands .expression n) (hu : ∀ n ∈ u, Stands .expression n)
    (hb : Stands .statement b) : Stands .statement (.forStatement 0 i t u b loc) :=
  stands_of_slots rfl rfl (.cons (filled_maybe hi)
    (.cons (filled_maybe ht) (.cons (filled_maybe hu) (.cons (filled_one hb) .nil))))

/-- The parts of a header come in order, and each may be missing. -/
theorem makes_forStatement (h : Handed .forStatement ps) :
    Makes .forStatement (forStatement loc ps) := by
  have hnone {role : Role} : ∀ n ∈ (none : Option Node), Stands role n := by simp
  have hsome {role : Role} {n : Node} (hn : Stands role n) : ∀ m ∈ some n, Stands role m := by
    simpa using hn
  rcases h with h | ⟨_, _, rfl, ⟨i, rfl, hi⟩, h⟩ <;>
    rcases h with h | ⟨_, _, rfl, ⟨t, rfl, ht⟩, h⟩ <;>
      obtain ⟨_, _, rfl, ⟨b, rfl, hb⟩, rfl⟩ | ⟨_, _, rfl, ⟨u, rfl, hu⟩, _, _, rfl, ⟨b, rfl, hb⟩, rfl⟩
        := h
  · exact ⟨_, rfl, stands_forStatement hnone hnone hnone hb⟩
  · exact ⟨_, rfl, stands_forStatement hnone hnone (hsome hu) hb⟩
  · exact ⟨_, rfl, stands_forStatement hnone (hsome ht) hnone hb⟩
  · exact ⟨_, rfl, stands_forStatement hnone (hsome ht) (hsome hu) hb⟩
  · exact ⟨_, rfl, stands_forStatement (hsome hi) hnone hnone hb⟩
  · exact ⟨_, rfl, stands_forStatement (hsome hi) hnone (hsome hu) hb⟩
  · exact ⟨_, rfl, stands_forStatement (hsome hi) (hsome ht) hnone hb⟩
  · exact ⟨_, rfl, stands_forStatement (hsome hi) (hsome ht) (hsome hu) hb⟩

theorem makes_forInStatement (h : Handed .forInStatement ps) :
    Makes .forInStatement (forInStatement loc ps) := by
  obtain ⟨_, _, rfl, ⟨l, rfl, hl⟩, _, _, rfl, ⟨r, rfl, hr⟩, _, _, rfl, ⟨b, rfl, hb⟩, rfl⟩ := h
  exact ⟨_, rfl, stands_of_slots rfl rfl
    (.cons (filled_one hl) (.cons (filled_one hr) (.cons (filled_one hb) .nil)))⟩

/-- With and without waiting, a loop over items has the same parts. -/
theorem holds_forOfStatement {l r b : Node} (isAwait : Bool) (hl : Stands .binding l)
    (hr : Stands .expression r) (hb : Stands .statement b) :
    Holds .statement .statement
      (forOfStatement loc isAwait [.binding l, .expression r, .statement b]) :=
  ⟨_, rfl, stands_of_slots rfl rfl
    (.cons (filled_one hl) (.cons (filled_one hr) (.cons (filled_one hb) .nil)))⟩

theorem makes_forOfStatement (h : Handed .forOfStatement ps) :
    Makes .forOfStatement (forOfStatement loc false ps) := by
  obtain ⟨_, _, rfl, ⟨l, rfl, hl⟩, _, _, rfl, ⟨r, rfl, hr⟩, _, _, rfl, ⟨b, rfl, hb⟩, rfl⟩ := h
  exact holds_forOfStatement false hl hr hb

theorem makes_forAwaitOfStatement (h : Handed .forAwaitOfStatement ps) :
    Makes .forAwaitOfStatement (forOfStatement loc true ps) := by
  obtain ⟨_, _, rfl, ⟨l, rfl, hl⟩, _, _, rfl, ⟨r, rfl, hr⟩, _, _, rfl, ⟨b, rfl, hb⟩, rfl⟩ := h
  exact holds_forOfStatement true hl hr hb

theorem makes_whileStatement (h : Handed .whileStatement ps) :
    Makes .whileStatement (whileStatement loc ps) := by
  obtain ⟨_, _, rfl, ⟨t, rfl, ht⟩, _, _, rfl, ⟨b, rfl, hb⟩, rfl⟩ := h
  exact ⟨_, rfl, stands_of_slots rfl rfl (.cons (filled_one ht) (.cons (filled_one hb) .nil))⟩

theorem makes_doWhileStatement (h : Handed .doWhileStatement ps) :
    Makes .doWhileStatement (doWhileStatement loc ps) := by
  obtain ⟨_, _, rfl, ⟨b, rfl, hb⟩, _, _, rfl, ⟨t, rfl, ht⟩, h⟩ := h
  rcases h with rfl | rfl <;>
    exact ⟨_, rfl, stands_of_slots rfl rfl (.cons (filled_one hb) (.cons (filled_one ht) .nil))⟩

/-! ## Other statements -/

theorem makes_functionDeclaration (h : Handed .functionDeclaration ps) :
    Makes .functionDeclaration (functionDeclaration loc ps) := by
  obtain ⟨_, _, rfl, ⟨isAsync, generator, rfl⟩, _, _, rfl, ⟨s, p, rfl⟩, _, _, rfl,
    ⟨ns, b, rfl, hns, hb⟩, rfl⟩ := h
  exact ⟨_, rfl, stands_of_slots rfl rfl
    (.cons (filled_one (stands_name s p)) (.cons hns (.cons (filled_one hb) .nil)))⟩

theorem makes_classDeclaration (h : Handed .classDeclaration ps) :
    Makes .classDeclaration (classDeclaration loc ps) := by
  obtain ⟨_, _, rfl, ⟨s, p, rfl⟩, _, _, rfl, ⟨c, ns, rfl, hc, hns⟩, rfl⟩ := h
  exact ⟨_, rfl, stands_of_slots rfl rfl
    (.cons (filled_one (stands_name s p)) (.cons (filled_maybe hc) (.cons hns .nil)))⟩

theorem makes_ifStatement (h : Handed .ifStatement ps) :
    Makes .ifStatement (ifStatement loc ps) := by
  obtain ⟨_, _, rfl, ⟨t, rfl, ht⟩, _, _, rfl, ⟨c, rfl, hc⟩, rfl | ⟨_, _, rfl, ⟨a, rfl, ha⟩, rfl⟩⟩
    := h
  · exact ⟨_, rfl, stands_of_slots rfl rfl
      (.cons (filled_one ht) (.cons (filled_one hc) (.cons (filled_none _) .nil)))⟩
  · exact ⟨_, rfl, stands_of_slots rfl rfl
      (.cons (filled_one ht) (.cons (filled_one hc) (.cons (filled_some ha) .nil)))⟩

theorem makes_continueStatement (h : Handed .continueStatement ps) :
    Makes .continueStatement (jump (.continueStatement · loc) ps) := by
  rcases h with rfl | ⟨_, _, rfl, ⟨s, p, rfl⟩, rfl⟩
  · exact ⟨_, rfl, stands_of_slots rfl rfl (.cons (filled_none _) .nil)⟩
  · exact ⟨_, rfl, stands_of_slots rfl rfl (.cons (filled_some (stands_name s p)) .nil)⟩

theorem makes_breakStatement (h : Handed .breakStatement ps) :
    Makes .breakStatement (jump (.breakStatement · loc) ps) := by
  rcases h with rfl | ⟨_, _, rfl, ⟨s, p, rfl⟩, rfl⟩
  · exact ⟨_, rfl, stands_of_slots rfl rfl (.cons (filled_none _) .nil)⟩
  · exact ⟨_, rfl, stands_of_slots rfl rfl (.cons (filled_some (stands_name s p)) .nil)⟩

theorem makes_returnStatement (h : Handed .returnStatement ps) :
    Makes .returnStatement (returnStatement loc ps) := by
  rcases h with rfl | ⟨_, _, rfl, ⟨n, rfl, hn⟩, rfl⟩
  · exact ⟨_, rfl, stands_of_slots rfl rfl (.cons (filled_none _) .nil)⟩
  · exact ⟨_, rfl, stands_of_slots rfl rfl (.cons (filled_some hn) .nil)⟩

theorem makes_throwStatement (h : Handed .throwStatement ps) :
    Makes .throwStatement (throwStatement loc ps) := by
  obtain ⟨_, _, rfl, ⟨n, rfl, hn⟩, rfl⟩ := h
  exact ⟨_, rfl, stands_of_slots rfl rfl (.cons (filled_one hn) .nil)⟩

/-- A block alone is refused later on, but it makes a statement all the same. -/
theorem makes_tryStatement (h : Handed .tryStatement ps) :
    Makes .tryStatement (tryStatement loc ps) := by
  obtain ⟨_, _, rfl, ⟨b, rfl, hb⟩, h⟩ := h
  rcases h with (rfl | ⟨_, _, rfl, ⟨f, rfl, hf⟩, rfl⟩)
    | ⟨_, _, rfl, ⟨c, rfl, hc⟩, rfl | ⟨_, _, rfl, ⟨f, rfl, hf⟩, rfl⟩⟩
  · exact ⟨_, rfl, stands_of_slots rfl rfl
      (.cons (filled_one hb) (.cons (filled_none _) (.cons (filled_none _) .nil)))⟩
  · exact ⟨_, rfl, stands_of_slots rfl rfl
      (.cons (filled_one hb) (.cons (filled_none _) (.cons (filled_some hf) .nil)))⟩
  · exact ⟨_, rfl, stands_of_slots rfl rfl
      (.cons (filled_one hb) (.cons (filled_some hc) (.cons (filled_none _) .nil)))⟩
  · exact ⟨_, rfl, stands_of_slots rfl rfl
      (.cons (filled_one hb) (.cons (filled_some hc) (.cons (filled_some hf) .nil)))⟩

theorem makes_catchClause (h : Handed .catchClause ps) :
    Makes .catchClause (catchClause loc ps) := by
  rcases h with ⟨_, _, rfl, ⟨b, rfl, hb⟩, rfl⟩
    | ⟨_, _, rfl, ⟨n, rfl, hn⟩, _, _, rfl, ⟨b, rfl, hb⟩, rfl⟩
  · exact ⟨_, rfl, stands_of_slots rfl rfl (.cons (filled_none _) (.cons (filled_one hb) .nil))⟩
  · exact ⟨_, rfl, stands_of_slots rfl rfl (.cons (filled_some hn) (.cons (filled_one hb) .nil))⟩

theorem makes_finallyClause (h : Handed .finallyClause ps) :
    Makes .finallyClause (finallyClause ps) := by
  obtain ⟨_, _, rfl, ⟨n, rfl, hn⟩, rfl⟩ := h
  exact ⟨n, rfl, hn⟩

theorem makes_caseTest (h : Handed .caseTest ps) : Makes .caseTest (caseTest ps) := by
  obtain ⟨_, _, rfl, ⟨n, rfl, hn⟩, rfl⟩ := h
  exact ⟨some n, rfl, by simpa using hn⟩

theorem makes_caseLabel (h : Handed .caseLabel ps) : Makes .caseLabel (only ps) := by
  rcases h with ⟨q, _, rfl, hq, rfl⟩ | ⟨q, _, rfl, hq, rfl⟩ <;> exact hq

theorem makes_switchCase (h : Handed .switchCase ps) :
    Makes .switchCase (switchCase loc ps) := by
  obtain ⟨_, _, rfl, ⟨t, rfl, ht⟩, _, _, rfl, ⟨ns, rfl, hns⟩, rfl⟩ := h
  exact ⟨_, rfl, stands_of_slots rfl rfl (.cons (filled_maybe ht) (.cons hns .nil))⟩

theorem makes_switchStatement (h : Handed .switchStatement ps) :
    Makes .switchStatement (switchStatement loc ps) := by
  obtain ⟨_, _, rfl, ⟨n, rfl, hn⟩, _, _, rfl, ⟨cs, rfl, hcs⟩, rfl⟩ := h
  exact ⟨_, rfl, stands_of_slots rfl rfl (.cons (filled_one hn) (.cons hcs .nil))⟩

theorem makes_labeledStatement (h : Handed .labeledStatement ps) :
    Makes .labeledStatement (labeledStatement loc ps) := by
  obtain ⟨_, _, rfl, ⟨s, p, rfl⟩, _, _, rfl, ⟨b, rfl, hb⟩, rfl⟩ := h
  exact ⟨_, rfl, stands_of_slots rfl rfl
    (.cons (filled_one (stands_name s p)) (.cons (filled_one hb) .nil))⟩

theorem makes_expressionStatement (h : Handed .expressionStatement ps) :
    Makes .expressionStatement (expressionStatement loc ps) := by
  obtain ⟨_, _, rfl, ⟨n, rfl, hn⟩, rfl⟩ := h
  exact ⟨_, rfl, stands_of_slots rfl rfl (.cons (filled_one hn) .nil)⟩

/-- Whatever the grammar takes for a statement is one. -/
theorem makes_statement (h : Handed .statement ps) : Makes .statement (statementOf ps) := by
  rcases h with ⟨_, _, rfl, ⟨n, rfl, hn⟩, rfl⟩ | h
  · exact ⟨n, rfl, hn.statement_of_block⟩
  · obtain ⟨n, rfl, hn⟩ : ∃ n, ps = [.statement n] ∧ Stands .statement n := by
      iterate 19
        rcases h with ⟨_, _, rfl, ⟨n, rfl, hn⟩, rfl⟩ | h
        · exact ⟨n, rfl, hn⟩
      obtain ⟨_, _, rfl, ⟨n, rfl, hn⟩, rfl⟩ := h
      exact ⟨n, rfl, hn⟩
    exact ⟨n, rfl, hn⟩

theorem makes_program (h : Handed .program ps) : Makes .program (programOf ps) := by
  obtain ⟨_, _, rfl, ⟨ns, rfl, hns⟩, rfl⟩ := h
  exact ⟨ns, _, rfl, (wellFormed_iff _).2 ⟨rfl, .cons hns .nil⟩⟩

/-! ## All rules -/

/-- **Every rule makes what it should** of the parts that its pattern delivers. -/
theorem makes_ofRule {r : Rule} (h : Handed r ps) : Makes r (ofRule loc r ps) := by
  cases r with
  | identifier => exact makes_identifier h
  | propertyIdentifier => exact makes_propertyIdentifier h
  | declarationKind => exact makes_declarationKind h
  | accessorKind => exact makes_accessorKind h
  | functionHead => exact ⟨_, _, rfl⟩
  | templateSubstitution => exact makes_templateSubstitution h
  | templateLiteral => exact makes_templateLiteral h
  | dotMember => exact makes_dotMember h
  | computedMember => exact makes_computedMember h
  | arguments => exact makes_arguments h
  | optionalChain => exact makes_optionalChain h
  | functionBody | block => exact makes_block h
  | functionRest => exact makes_functionRest h
  | computedPropertyName => exact makes_computedPropertyName h
  | propertyName => exact makes_propertyName h
  | accessorMethod => exact makes_accessorMethod h
  | asyncMethod => exact makes_asyncMethod h
  | generatorMethod => exact makes_generatorMethod h
  | plainMethod => exact makes_plainMethod h
  | methodDef => exact makes_methodDef h
  | spreadElement => exact makes_spreadElement h
  | keyedProperty => exact makes_keyedProperty h
  | keyedPatternProperty => exact makes_keyedPatternProperty h
  | shorthandProperty => exact makes_shorthandProperty h
  | propertyDefinition => exact makes_propertyDefinition h
  | propertyDefinitions | patternProperties =>
    exact ⟨_, rfl, stands_filterMap (fun _ => rfl) (forall_of_commaTerminated h)⟩
  | objectLiteral => exact makes_objectLiteral h
  | methodDefinition => exact makes_methodDefinition h
  | classField => exact makes_classField h
  | classMember => exact makes_classMember h
  | classMembers => exact makes_classMembers h
  | classHeritage => exact makes_classHeritage h
  | classTail => exact makes_classTail h
  | classExpression => exact makes_classExpression h
  | functionExpression => exact makes_functionExpression h
  | arrayLiteral => exact makes_arrayLiteral h
  | parenthesizedExpression => exact makes_parenthesizedExpression h
  | primaryExpression => exact makes_primaryExpression h
  | lhsTail => exact makes_lhsTail h
  | newCalleeTail => exact makes_newCalleeTail h
  | newExpression => exact makes_newExpression h
  | newCallee => exact makes_newCallee h
  | leftHandSideExpression => exact makes_leftHandSideExpression h
  | postfixExpression => exact makes_postfixExpression h
  | awaitExpression => exact makes_awaitExpression h
  | prefixExpression => exact makes_prefixExpression h
  | unaryExpression => exact makes_unaryExpression h
  | binaryExpression => exact makes_binaryExpression h
  | conditionalTail => exact makes_conditionalTail h
  | conditionalExpression => exact makes_conditionalExpression h
  | restElement => exact makes_restElement h
  | objectPattern => exact makes_objectPattern h
  | arrayPattern => exact makes_arrayPattern h
  | bindingTarget => exact makes_bindingTarget h
  | bindingElement => exact makes_bindingElement h
  | patternProperty => exact makes_patternProperty h
  | arrayPatternItem => exact makes_arrayPatternItem h
  | formalParameter => exact makes_formalParameter h
  | formalParameters =>
    exact ⟨_, rfl, stands_filterMap (fun _ => rfl) (forall_of_commaTerminated h)⟩
  | parenthesizedParameters => exact makes_parenthesizedParameters h
  | arrowParameters => exact makes_arrowParameters h
  | arrowFunction => exact makes_arrowFunction h
  | yieldExpression => exact makes_yieldExpression h
  | assignment => exact makes_assignment h
  | assignmentExpression => exact makes_assignmentExpression h
  | arrowBody => exact makes_arrowBody h
  | argument | arrayElement => exact makes_argument h
  | argumentList => exact ⟨_, rfl, stands_filterMap (fun _ => rfl) (forall_of_commaTerminated h)⟩
  | expression => exact makes_expression h
  | variableDeclarator => exact makes_variableDeclarator h
  | variableDeclaration => exact makes_variableDeclaration h
  | variableStatement => exact makes_variableStatement h
  | forInit => exact makes_forInit h
  | forTest => exact makes_forTest h
  | forUpdate => exact makes_forUpdate h
  | forDeclaration => exact makes_forDeclaration h
  | forBinding => exact makes_forBinding h
  | functionDeclaration => exact makes_functionDeclaration h
  | classDeclaration => exact makes_classDeclaration h
  | ifStatement => exact makes_ifStatement h
  | forAwaitOfStatement => exact makes_forAwaitOfStatement h
  | forInStatement => exact makes_forInStatement h
  | forOfStatement => exact makes_forOfStatement h
  | forStatement => exact makes_forStatement h
  | whileStatement => exact makes_whileStatement h
  | doWhileStatement => exact makes_doWhileStatement h
  | continueStatement => exact makes_continueStatement h
  | breakStatement => exact makes_breakStatement h
  | returnStatement => exact makes_returnStatement h
  | throwStatement => exact makes_throwStatement h
  | tryStatement => exact makes_tryStatement h
  | switchStatement => exact makes_switchStatement h
  | labeledStatement => exact makes_labeledStatement h
  | expressionStatement => exact makes_expressionStatement h
  | emptyStatement | debuggerStatement => exact ⟨_, rfl, stands_of_slots rfl rfl .nil⟩
  | statement => exact makes_statement h
  | catchClause => exact makes_catchClause h
  | finallyClause => exact makes_finallyClause h
  | caseTest => exact makes_caseTest h
  | defaultTest => exact ⟨none, rfl, by simp⟩
  | caseLabel => exact makes_caseLabel h
  | switchCase => exact makes_switchCase h
  | switchCases => exact ⟨_, rfl, stands_filterMap (fun _ => rfl) (forall_of_many_layout h)⟩
  | statementList => exact ⟨_, rfl, stands_filterMap (fun _ => rfl) (forall_of_many_layout h)⟩
  | program => exact makes_program h
  | asyncPrefix | generatorStar | methodStar | yieldDelegate | staticPrefix | comma => rfl
  | postfixMark =>
    obtain ⟨s, p, _, rfl, -, rfl⟩ := h
    exact ⟨s, p, rfl⟩
  | templateSpan =>
    rcases h with ⟨q, _, rfl, hq, rfl⟩ | ⟨s, p, _, rfl, -, rfl⟩
    · exact .inl hq
    · exact .inr ⟨s, p, rfl⟩
  | lhsHead =>
    rcases h with ⟨q, _, rfl, hq, rfl⟩ | ⟨q, _, rfl, hq, rfl⟩ <;> exact hq
  | statementLabel | className | functionName | newArguments | yieldArgument | sameLineExpression
  | elseClause | catchParameter =>
    obtain ⟨q, _, rfl, hq, rfl⟩ := h
    exact hq
  | endOfInput | explicitSemicolon | lineBreakEnd | braceEnd | inputEnd | statementEnd
  | statementStartGuard => trivial

end LoopBound.Reading
