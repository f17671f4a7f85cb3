import LoopBound.Proofs.Grammar.Derives
import LoopBound.Proofs.Syntax.WellFormed
import LoopBound.Reading.Meaning

/-!
# What patterns deliver

A rule is given its meaning from the meanings of what its pattern matched. `Makes` says what kind of
part each rule makes, and that the nodes in it are well-formed and of the kind that the part stands
for. `Delivers` says which lists of parts a pattern hands to its rule, if the rules in it make what
they should: texts and marks that the match tree drops deliver nothing, and what is left is what the
shape functions of the rules have to cover.
-/

namespace LoopBound.Reading

open LoopBound.Syntax LoopBound.Grammar
open LoopBound.Text (Position)

/-! ## Parts that rules make -/

/-- The part holds one node in its role. -/
def Holds (make : Node → Part) (role : Role) (p : Part) : Prop :=
  ∃ n, p = make n ∧ Stands role n

/-- The part holds nodes in their role. -/
def HoldsAll (make : List Node → Part) (role : Role) (p : Part) : Prop :=
  ∃ ns, p = make ns ∧ ∀ n ∈ ns, Stands role n

/-- The part holds a node in its role, or none. -/
def HoldsMaybe (make : Option Node → Part) (role : Role) (p : Part) : Prop :=
  ∃ o, p = make o ∧ ∀ n ∈ o, Stands role n

/-- The nodes of a tail are expressions. -/
def SoundTail : Tail → Prop
  | .member property _ _ => Stands .expression property
  | .call arguments _ => ∀ n ∈ arguments, Stands .expression n
  | .template quasi => Stands .expression quasi

/-- A property whose value is the function of a method. -/
def IsMethod (p : Part) : Prop :=
  ∃ key value what computed method loc,
    p = .property (.property key (some value) what computed false method loc)
      ∧ (what = .get ∨ what = .set ∨ method = true)
      ∧ Stands .expression key ∧ Stands .method value

/-- What the rule makes of its parts. -/
def Makes (r : Rule) (p : Part) : Prop :=
  match r with
  -- names and marks
  | .identifier | .statementLabel | .className | .functionName => ∃ s loc, p = .name s loc
  | .declarationKind => ∃ k, p = .kind k
  | .accessorKind => p = .accessor .get ∨ p = .accessor .set
  | .asyncPrefix => p = .async
  | .generatorStar | .methodStar | .yieldDelegate => p = .star
  | .staticPrefix => p = .static
  | .functionHead => ∃ isAsync generator, p = .head isAsync generator
  | .postfixMark => ∃ s loc, p = .token .postfixOperator s loc
  | .comma => p = .comma
  -- operands: templates, accesses and calls
  | .templateSubstitution => Holds .substitution .expression p
  | .templateSpan => Holds .substitution .expression p ∨ ∃ s loc, p = .token .templateText s loc
  | .templateLiteral => Holds .template .expression p
  | .dotMember | .computedMember =>
    ∃ n computed, p = .tail (.member n computed false) ∧ Stands .expression n
  | .arguments | .newArguments => HoldsAll .arguments .expression p
  | .optionalChain | .lhsTail | .newCalleeTail => ∃ t, p = .tail t ∧ SoundTail t
  | .argument | .arrayElement | .spreadElement => Holds .item .expression p
  | .argumentList => HoldsAll .items .expression p
  -- functions, objects and classes
  | .functionBody | .block => Holds .block .block p
  | .functionRest =>
    ∃ ns b, p = .function ns b ∧ (∀ n ∈ ns, Stands .expression n) ∧ Stands .block b
  | .computedPropertyName | .propertyName => ∃ n computed, p = .key n computed ∧ Stands .expression n
  | .accessorMethod | .asyncMethod | .generatorMethod | .plainMethod | .methodDef => IsMethod p
  | .keyedProperty | .shorthandProperty | .propertyDefinition | .keyedPatternProperty
  | .patternProperty => Holds .property .expression p
  | .propertyDefinitions | .patternProperties => HoldsAll .properties .expression p
  | .methodDefinition | .classField => Holds .member .member p
  | .classMember => Holds .member .member p ∨ ∃ n, p = .statement n
  | .classMembers => HoldsAll .members .member p
  | .classHeritage => Holds .heritage .expression p
  | .classTail => ∃ s ns, p = .classTail s ns ∧ (∀ n ∈ s, Stands .expression n)
      ∧ ∀ n ∈ ns, Stands .member n
  -- expressions and patterns
  | .propertyIdentifier | .objectLiteral | .classExpression | .functionExpression | .arrayLiteral
  | .parenthesizedExpression | .primaryExpression | .newExpression | .newCallee | .lhsHead
  | .leftHandSideExpression | .postfixExpression | .awaitExpression | .prefixExpression
  | .unaryExpression | .binaryExpression | .conditionalExpression | .arrowFunction
  | .yieldExpression | .assignment | .assignmentExpression | .yieldArgument | .expression
  | .sameLineExpression => Holds .expression .expression p
  | .conditionalTail =>
    ∃ c a, p = .branches c a ∧ Stands .expression c ∧ Stands .expression a
  | .restElement | .objectPattern | .arrayPattern | .bindingTarget | .bindingElement
  | .arrayPatternItem | .formalParameter | .catchParameter => Holds .pattern .expression p
  | .formalParameters | .parenthesizedParameters | .arrowParameters =>
    HoldsAll .patterns .expression p
  | .arrowBody => Holds .body .arrowBody p
  -- declarations and loop headers
  | .variableDeclarator => Holds .declarator .declarator p
  | .variableDeclaration | .forDeclaration =>
    ∃ n, p = .declaration n ∧ Stands .binding n ∧ Stands .statement n
  | .forInit => Holds .init .binding p
  | .forTest => Holds .test .expression p
  | .forUpdate => Holds .update .expression p
  | .forBinding => Holds .binding .binding p
  -- statements and their parts
  | .emptyStatement | .variableStatement | .functionDeclaration | .classDeclaration | .ifStatement
  | .forAwaitOfStatement | .forInStatement | .forOfStatement | .forStatement | .whileStatement
  | .doWhileStatement | .continueStatement | .breakStatement | .returnStatement | .throwStatement
  | .tryStatement | .switchStatement | .debuggerStatement | .labeledStatement
  | .expressionStatement | .statement | .elseClause => Holds .statement .statement p
  | .catchClause => Holds .handler .handler p
  | .finallyClause => Holds .finalizer .block p
  | .caseTest | .defaultTest | .caseLabel => HoldsMaybe .label .expression p
  | .switchCase => Holds .case .case p
  | .switchCases => HoldsAll .cases .case p
  | .statementList => HoldsAll .statements .statement p
  | .program => ∃ ns loc, p = .program (.program ns loc) ∧ WellFormed (.program ns loc)
  -- ends of statements and other conditions
  | .endOfInput | .explicitSemicolon | .lineBreakEnd | .braceEnd | .inputEnd | .statementEnd
  | .statementStartGuard => True

/-- The text is one that the token is spelled with; only operators between operands are looked up by
their spelling. -/
def Spells (t : Token) (s : String) : Prop :=
  match t with
  | .binaryOperator => (BinaryOperator.ofSpelling? s).isSome = true
  | _ => True

/-! ## Parts that patterns deliver -/

/-- The list begins with parts that the pattern hands to the rule it belongs to, and `behind` holds
of the parts behind them. -/
def Delivers : Pattern → (behind : List Part → Prop) → List Part → Prop
  | .text _, behind, ps => behind ps
  | .token t, behind, ps => ∃ s loc qs, ps = .token t s loc :: qs ∧ Spells t s ∧ behind qs
  | .rule r, behind, ps => ∃ q qs, ps = q :: qs ∧ Makes r q ∧ behind qs
  | .drop _, behind, ps => behind ps
  | .empty, behind, ps => behind ps
  | .both p q, behind, ps => Delivers p (Delivers q behind) ps
  | .either p q, behind, ps => Delivers p behind ps ∨ Delivers q behind ps
  | .optional p, behind, ps => behind ps ∨ Delivers p behind ps
  | .many p, behind, ps =>
    ∃ (rounds : List (List Part)) (qs : List Part), ps = rounds.flatten ++ qs
      ∧ (∀ rs ∈ rounds, Delivers p (· = []) rs) ∧ behind qs
  | .absent _, behind, ps => behind ps

/-- The parts that a rule is handed. -/
def Handed (r : Rule) (ps : List Part) : Prop :=
  Delivers r.pattern (· = []) ps

section

variable {p : Pattern} {ps : List Part} {P : Part → Prop}

/-- Where each round delivers one part, the whole delivers such parts. -/
theorem forall_of_many (hround : ∀ qs, Delivers p (· = []) qs → ∃ q, qs = [q] ∧ P q)
    (h : Delivers (.many p) (· = []) ps) : ∀ q ∈ ps, P q := by
  obtain ⟨rounds, _, rfl, hrounds, rfl⟩ := h
  intro q hq
  rw [List.append_nil, List.mem_flatten] at hq
  obtain ⟨qs, hqs, hq⟩ := hq
  obtain ⟨q', rfl, hP⟩ := hround qs (hrounds qs hqs)
  rw [List.mem_singleton] at hq
  rw [hq]
  exact hP

theorem forall_of_many_rule {r : Rule} (h : Delivers (.many (.rule r)) (· = []) ps) :
    ∀ q ∈ ps, Makes r q := by
  refine forall_of_many ?_ h
  rintro qs ⟨q, _, rfl, hq, rfl⟩
  exact ⟨q, rfl, hq⟩

/-- A list of items behind layout. -/
theorem forall_of_many_layout {r : Rule}
    (h : Delivers (.many (.sequence [.layout, .rule r])) (· = []) ps) : ∀ q ∈ ps, Makes r q := by
  refine forall_of_many ?_ h
  rintro qs ⟨q, _, rfl, hq, rfl⟩
  exact ⟨q, rfl, hq⟩

/-- A list of items with commas between them. -/
theorem forall_of_commaSeparated {r : Rule}
    (h : Delivers (.commaSeparated (.rule r)) (· = []) ps) : ps ≠ [] ∧ ∀ q ∈ ps, Makes r q := by
  obtain ⟨q, qs, rfl, hq, hmany⟩ := h
  have hqs : ∀ q ∈ qs, Makes r q := by
    refine forall_of_many ?_ hmany
    rintro qs ⟨q, _, rfl, hq, rfl⟩
    exact ⟨q, rfl, hq⟩
  exact ⟨List.cons_ne_nil _ _, List.forall_mem_cons.2 ⟨hq, hqs⟩⟩

/-- A list of items with commas between them and perhaps one more behind. -/
theorem forall_of_commaTerminated {r : Rule}
    (h : Delivers (.commaTerminated (.rule r)) (· = []) ps) : ∀ q ∈ ps, Makes r q := by
  have h : Delivers (.commaSeparated (.rule r)) (fun qs => qs = [] ∨ qs = []) ps := h
  simp only [or_self] at h
  exact (forall_of_commaSeparated h).2

/-- Between brackets stand items and commas. -/
theorem forall_of_slots {r : Rule} (h : Delivers (.slots (.rule r)) (· = []) ps) :
    ∀ q ∈ ps, q = .comma ∨ Makes r q := by
  have hrounds {qs : List Part} (h : Delivers (.many (.sequence
      [.layout, .rule .comma, .layout, .optional (.rule r)])) (· = []) qs) :
      ∀ q ∈ qs, q = .comma ∨ Makes r q := by
    obtain ⟨rounds, _, rfl, hrounds, rfl⟩ := h
    intro q hq
    rw [List.append_nil, List.mem_flatten] at hq
    obtain ⟨qs, hqs, hq⟩ := hq
    obtain ⟨_, _, rfl, hcomma, hitem⟩ := hrounds qs hqs
    rcases hitem with rfl | ⟨item, _, rfl, hitem, rfl⟩
    · rw [List.mem_singleton] at hq
      exact .inl (hq ▸ hcomma)
    · rcases List.mem_pair.1 hq with rfl | rfl
      · exact .inl hcomma
      · exact .inr hitem
  rcases h with h | ⟨q, qs, rfl, hq, h⟩
  · exact hrounds h
  · exact List.forall_mem_cons.2 ⟨.inr hq, hrounds h⟩

end

/-! ## Spellings -/

/-- Every text that is taken as an operator between operands is the spelling of one. -/
theorem ofSpelling?_of_mem {s : Spelling} (h : s ∈ binarySpellings) :
    (BinaryOperator.ofSpelling? (String.ofList s.text)).isSome = true := by
  have hall : binarySpellings.all (fun s =>
      (BinaryOperator.ofSpelling? (String.ofList s.text)).isSome) = true := by
    decide +kernel
  exact List.all_eq_true.1 hall s h

theorem spells_of_length? {t : Token} {source : List Char} {n : Nat}
    (h : t.length? source = some n) : Spells t (String.ofList (source.take n)) := by
  cases t with
  | binaryOperator =>
    obtain ⟨s, hs, hfront, rfl, -⟩ := firstSpelling?_eq_some h
    rw [← List.prefix_iff_eq_take.1 hfront]
    exact ofSpelling?_of_mem hs
  | _ => trivial

end LoopBound.Reading
