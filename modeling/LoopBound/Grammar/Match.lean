import LoopBound.Grammar.Rules

/-!
# Matching

A pattern is matched against the *places* of a text: one place for every suffix, the longest first.
Each place carries the results of all rules there, computed when first asked for, so every rule is
tried at most once at a place. The results of a place are built up in the order of the rules: a rule
sees the results of the rules declared before it at its own place, and all results further on. That
makes matching total, and it loses nothing, since no rule begins with one declared after it.

A result depends on the suffix alone. A match tree therefore records the suffix where it begins.
-/

namespace LoopBound.Grammar

/-- What matched, from the root down: the text that the match begins, and how much of it was taken.
-/
inductive Tree where
  | leaf (token : Token) (source : List Char) (length : Nat)
  | node (rule : Rule) (source : List Char) (length : Nat) (children : List Tree)
  deriving Repr

/-- The text from the start of the match to the end of the input. -/
def Tree.source : Tree → List Char
  | .leaf _ source _ => source
  | .node _ source _ _ => source

/-- The number of characters taken. -/
def Tree.length : Tree → Nat
  | .leaf _ _ length => length
  | .node _ _ length _ => length

/-- The characters taken. -/
def Tree.text (t : Tree) : List Char :=
  t.source.take t.length

/-- A successful match: its length, and the trees that were kept. -/
structure Matched where
  length : Nat
  trees : List Tree

/-- The results of rules at one place; `none` where a rule does not match. A result is computed when
it is first asked for, and kept. -/
abbrev Results := List (Rule × Thunk (Option Matched))

/-- The result of a rule. A rule that has none does not match. -/
def Results.find (rs : Results) (r : Rule) : Option Matched :=
  match rs.lookup r with
  | some result => result.get
  | none => none

/-- A suffix of the text with the results of the rules there. -/
structure Place where
  rest : List Char
  results : Thunk Results

/-- The suffix that begins at the first of the places. -/
def restOf : List Place → List Char
  | [] => []
  | place :: _ => place.rest

/-- The result of a rule at the first of the places. -/
def lookup (r : Rule) : List Place → Option Matched
  | [] => none
  | place :: _ => place.results.get.find r

/-- Matches one after another, none of them empty. The places left bound their number. -/
def repeated (step : List Place → Option Matched) : List Place → List Place → Matched
  | [], _ => ⟨0, []⟩
  | _ :: fuel, places =>
    match step places with
    | some ⟨n + 1, trees⟩ =>
      let more := repeated step fuel (places.drop (n + 1))
      ⟨n + 1 + more.length, trees ++ more.trees⟩
    | _ => ⟨0, []⟩

/-- Matches the pattern at the first of the places. -/
def Pattern.run : Pattern → List Place → Option Matched
  | .text word, places => (spelled? word (restOf places)).map (⟨·, []⟩)
  | .token t, places =>
    let rest := restOf places
    (t.length? rest).map fun n => ⟨n, [.leaf t rest n]⟩
  | .rule r, places => lookup r places
  | .drop p, places => (p.run places).map fun m => ⟨m.length, []⟩
  | .empty, _ => some ⟨0, []⟩
  | .both p q, places =>
    match p.run places with
    | none => none
    | some first =>
      match q.run (places.drop first.length) with
      | none => none
      | some second => some ⟨first.length + second.length, first.trees ++ second.trees⟩
  | .either p q, places =>
    match p.run places with
    | some m => some m
    | none => q.run places
  | .optional p, places => some ((p.run places).getD ⟨0, []⟩)
  | .many p, places => some (repeated p.run places places)
  | .absent p, places =>
    match p.run places with
    | some _ => none
    | none => some ⟨0, []⟩

/-- The match of a rule, as one tree. -/
def Rule.run (r : Rule) (places : List Place) : Option Matched :=
  (r.pattern.run places).map fun m => ⟨m.length, [.node r (restOf places) m.length m.trees]⟩

/-- The rules, the last declared first. -/
def Rule.downward : List Rule := [
  .program, .switchCases, .switchCase, .caseLabel, .defaultTest, .caseTest, .statementList,
  .finallyClause, .catchClause, .catchParameter, .elseClause,
  .statement, .expressionStatement, .statementStartGuard, .labeledStatement, .debuggerStatement,
  .switchStatement, .tryStatement, .throwStatement, .returnStatement, .breakStatement,
  .continueStatement, .doWhileStatement, .whileStatement, .forStatement, .forOfStatement,
  .forInStatement, .forAwaitOfStatement, .ifStatement, .classDeclaration, .functionDeclaration,
  .block, .forBinding, .forDeclaration, .forUpdate, .forTest, .forInit, .variableStatement,
  .variableDeclaration, .variableDeclarator, .sameLineExpression, .expression, .arrayElement,
  .argumentList, .argument, .yieldArgument, .arrowBody, .assignmentExpression, .assignment,
  .yieldExpression, .arrowFunction, .arrowParameters, .parenthesizedParameters,
  .formalParameters, .formalParameter, .arrayPatternItem, .patternProperties, .patternProperty,
  .keyedPatternProperty, .bindingElement, .bindingTarget, .arrayPattern, .objectPattern,
  .restElement, .conditionalExpression, .conditionalTail, .binaryExpression, .unaryExpression,
  .prefixExpression, .awaitExpression, .postfixExpression, .leftHandSideExpression, .lhsTail,
  .lhsHead, .newCallee, .newExpression, .newCalleeTail, .newArguments, .primaryExpression,
  .parenthesizedExpression, .arrayLiteral, .functionExpression, .functionName, .classExpression,
  .className, .classTail, .classHeritage, .classMembers, .classMember, .classField,
  .methodDefinition, .emptyStatement, .objectLiteral, .propertyDefinitions, .propertyDefinition,
  .shorthandProperty, .keyedProperty, .spreadElement, .methodDef, .plainMethod, .generatorMethod,
  .asyncMethod, .accessorMethod, .propertyName, .computedPropertyName, .functionRest,
  .functionBody, .optionalChain, .arguments, .computedMember, .dotMember, .templateLiteral,
  .templateSpan, .templateSubstitution, .comma, .postfixMark, .functionHead, .statementLabel,
  .yieldDelegate, .accessorKind, .methodStar, .staticPrefix, .generatorStar, .asyncPrefix,
  .declarationKind, .statementEnd, .inputEnd, .braceEnd, .lineBreakEnd, .explicitSemicolon,
  .endOfInput, .propertyIdentifier, .identifier]

/-- The results of the given rules at a place with the suffix `rest`; each rule but the first is
seen by those in front of it. -/
def resultsOf (rest : List Char) (later : List Place) : List Rule → Results
  | [] => []
  | r :: lower =>
    let below := resultsOf rest later lower
    (r, Thunk.mk fun _ => r.run (⟨rest, Thunk.pure below⟩ :: later)) :: below

/-- A place in front of the later ones. -/
def placeOf (rest : List Char) (later : List Place) : Place :=
  ⟨rest, Thunk.mk fun _ => resultsOf rest later Rule.downward⟩

/-- The places of a text, the end of the text included. -/
def placesOf : List Char → List Place
  | [] => [placeOf [] []]
  | c :: cs =>
    let later := placesOf cs
    placeOf (c :: cs) later :: later

/-- Matches a pattern at the front of a text. -/
def Pattern.match? (p : Pattern) (cs : List Char) : Option Matched :=
  p.run (placesOf cs)

end LoopBound.Grammar
