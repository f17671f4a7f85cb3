import LoopBound.Grammar.Pattern

/-!
# The grammar

What each rule matches. No rule takes layout at its ends; the layout between tokens is written out,
and where a line break would matter only layout within the line is allowed. A binary expression is a
flat chain of operands: precedence is settled afterwards.
-/

namespace LoopBound.Grammar

open Pattern

/-- The rest of a loop header that goes through the items of a value. -/
def forItems (join : Keyword) (items : Rule) : List Pattern :=
  [layout, parenthesized (sequence [rule .forBinding, layout, keyword join, layout, rule items]),
    layout, rule .statement]

/-- The end of a statement: a semicolon, or a place where one may be left out. -/
def endOfStatement : Pattern :=
  drop (rule .statementEnd)

/-- What a rule matches. -/
def Rule.pattern : Rule → Pattern
  -- names and marks
  | .identifier => sequence [absent (token .reservedWord), token .name]
  | .propertyIdentifier => firstOf (token .name) [token .privateName]
  | .endOfInput => absent (token .anyCharacter)
  | .explicitSemicolon => sequence [layout, word ";"]
  | .lineBreakEnd => sequence [sameLine, drop (token .lineBreak)]
  | .braceEnd => sequence [layout, absent (absent (word "\x7d"))]
  | .inputEnd => sequence [layout, rule .endOfInput]
  | .statementEnd =>
    firstOf (rule .explicitSemicolon) [rule .lineBreakEnd, rule .braceEnd, rule .inputEnd]
  | .declarationKind =>
    firstOf (token (.keyword .var)) [token (.keyword .let), token (.keyword .const)]
  | .asyncPrefix => sequence [keyword .async, sameLine]
  | .generatorStar => sequence [layout, word "*"]
  | .staticPrefix => sequence [keyword .static, layout]
  | .methodStar => sequence [word "*", layout]
  | .accessorKind => firstOf (token (.keyword .get)) [token (.keyword .set)]
  | .yieldDelegate => sequence [layout, word "*"]
  | .statementLabel => sequence [sameLine, rule .identifier]
  | .functionHead =>
    sequence [optional (rule .asyncPrefix), keyword .function, optional (rule .generatorStar)]
  | .postfixMark => sequence [sameLine, token .postfixOperator]
  | .comma => word ","
  -- functions, members of objects, and classes
  | .functionBody => statements
  | .functionRest =>
    sequence [parenthesized (optional (rule .formalParameters)), layout, rule .functionBody]
  | .computedPropertyName =>
    sequence [word "[", layout, rule .assignmentExpression, layout, word "]"]
  | .propertyName =>
    firstOf (token .name)
      [token .string, token .number, rule .computedPropertyName, token .privateName]
  | .accessorMethod =>
    sequence [rule .accessorKind, layout, rule .propertyName, layout, rule .functionRest]
  | .asyncMethod =>
    sequence [keyword .async, sameLine, optional (rule .methodStar), rule .propertyName, layout,
      rule .functionRest]
  | .generatorMethod =>
    sequence [word "*", layout, rule .propertyName, layout, rule .functionRest]
  | .plainMethod => sequence [rule .propertyName, layout, rule .functionRest]
  | .methodDef =>
    firstOf (rule .accessorMethod) [rule .asyncMethod, rule .generatorMethod, rule .plainMethod]
  | .spreadElement => sequence [word "...", layout, rule .assignmentExpression]
  | .keyedProperty =>
    sequence [rule .propertyName, layout, word ":", layout, rule .assignmentExpression]
  | .shorthandProperty =>
    sequence [rule .identifier, absent (sequence [layout, word "("])]
  | .propertyDefinition =>
    firstOf (rule .spreadElement) [rule .keyedProperty, rule .methodDef, rule .shorthandProperty]
  | .propertyDefinitions => commaTerminated (rule .propertyDefinition)
  | .objectLiteral => braced (optional (rule .propertyDefinitions))
  | .emptyStatement => word ";"
  | .methodDefinition => sequence [optional (rule .staticPrefix), rule .methodDef]
  | .classField =>
    sequence [optional (rule .staticPrefix), rule .propertyName, optional initializer,
      endOfStatement]
  | .classMember =>
    firstOf (rule .methodDefinition) [rule .classField, rule .emptyStatement]
  | .classMembers => many (sequence [layout, rule .classMember])
  | .classHeritage =>
    sequence [layout, keyword .extends, layout, rule .leftHandSideExpression]
  | .classTail =>
    sequence [optional (rule .classHeritage), layout, word "\x7b", rule .classMembers, layout,
      word "\x7d"]
  | .className => sequence [layout, rule .identifier]
  | .classExpression => sequence [keyword .class, optional (rule .className), rule .classTail]
  -- operands: templates, accesses, calls, primary expressions
  | .templateSubstitution =>
    sequence [word "$\x7b", layout, rule .expression, layout, word "\x7d"]
  | .templateSpan => firstOf (rule .templateSubstitution) [token .templateText]
  | .templateLiteral => sequence [word "\x60", many (rule .templateSpan), word "\x60"]
  | .dotMember => sequence [drop (token .dot), layout, rule .propertyIdentifier]
  | .computedMember => sequence [word "[", layout, rule .expression, layout, word "]"]
  | .arguments => parenthesized (optional (rule .argumentList))
  | .optionalChain =>
    sequence [drop (token .optionalDot), layout,
      firstOf (rule .arguments) [rule .computedMember, rule .propertyIdentifier]]
  | .functionName => sequence [layout, rule .identifier]
  | .functionExpression =>
    sequence [rule .functionHead, optional (rule .functionName), layout, rule .functionRest]
  | .arrayLiteral => slots (rule .arrayElement)
  | .parenthesizedExpression => parenthesized (rule .expression)
  | .primaryExpression =>
    firstOf (token .thisWord)
      [token .superWord, rule .functionExpression, rule .classExpression, token .wordLiteral,
       token .number, token .string, rule .templateLiteral, token .regex, rule .arrayLiteral,
       rule .objectLiteral, rule .parenthesizedExpression, rule .identifier]
  | .newArguments => sequence [layout, rule .arguments]
  | .newCalleeTail =>
    sequence [layout,
      firstOf (rule .dotMember) [rule .computedMember, rule .templateLiteral]]
  | .newExpression =>
    sequence [keyword .new, layout, rule .newCallee, optional (rule .newArguments)]
  | .newCallee =>
    sequence [firstOf (rule .newExpression) [rule .primaryExpression], many (rule .newCalleeTail)]
  | .lhsHead => firstOf (rule .newExpression) [rule .primaryExpression]
  | .lhsTail =>
    sequence [layout,
      firstOf (rule .optionalChain)
        [rule .dotMember, rule .computedMember, rule .arguments, rule .templateLiteral]]
  | .leftHandSideExpression => sequence [rule .lhsHead, many (rule .lhsTail)]
  | .argument => firstOf (rule .spreadElement) [rule .assignmentExpression]
  | .argumentList => commaTerminated (rule .argument)
  | .arrayElement => firstOf (rule .spreadElement) [rule .assignmentExpression]
  -- operators, functions as expressions, and assignments
  | .postfixExpression =>
    sequence [rule .leftHandSideExpression, optional (rule .postfixMark)]
  | .awaitExpression => sequence [keyword .await, layout, rule .unaryExpression]
  | .prefixExpression => sequence [token .prefixOperator, layout, rule .unaryExpression]
  | .unaryExpression =>
    firstOf (rule .prefixExpression) [rule .awaitExpression, rule .postfixExpression]
  | .binaryExpression =>
    sequence [rule .unaryExpression,
      many (sequence [layout, token .binaryOperator, layout, rule .unaryExpression])]
  | .conditionalTail =>
    sequence [layout, word "?", layout, rule .assignmentExpression, layout, word ":", layout,
      rule .assignmentExpression]
  | .conditionalExpression => sequence [rule .binaryExpression, optional (rule .conditionalTail)]
  | .parenthesizedParameters => parenthesized (optional (rule .formalParameters))
  | .arrowParameters => firstOf (rule .identifier) [rule .parenthesizedParameters]
  | .arrowFunction =>
    sequence [optional (rule .asyncPrefix), rule .arrowParameters, sameLine, word "=>", layout,
      rule .arrowBody]
  | .arrowBody => firstOf (rule .functionBody) [rule .assignmentExpression]
  | .yieldExpression =>
    sequence [keyword .yield, optional (rule .yieldDelegate), optional (rule .yieldArgument)]
  | .yieldArgument => sequence [sameLine, rule .assignmentExpression]
  | .assignment =>
    sequence [rule .leftHandSideExpression, layout, token .assignmentOperator, layout,
      rule .assignmentExpression]
  | .assignmentExpression =>
    firstOf (rule .arrowFunction)
      [rule .yieldExpression, rule .assignment, rule .conditionalExpression]
  | .expression => commaSeparated (rule .assignmentExpression)
  | .sameLineExpression => sequence [sameLine, rule .expression]
  -- binding patterns and parameters
  | .restElement => sequence [word "...", layout, rule .bindingTarget]
  | .objectPattern => braced (optional (rule .patternProperties))
  | .arrayPattern => slots (rule .arrayPatternItem)
  | .bindingTarget => firstOf (rule .objectPattern) [rule .arrayPattern, rule .identifier]
  | .bindingElement => sequence [rule .bindingTarget, optional initializer]
  | .keyedPatternProperty =>
    sequence [rule .propertyName, layout, word ":", layout, rule .bindingElement]
  | .patternProperty =>
    firstOf (rule .restElement) [rule .keyedPatternProperty, rule .bindingElement]
  | .patternProperties => commaTerminated (rule .patternProperty)
  | .arrayPatternItem => firstOf (rule .restElement) [rule .bindingElement]
  | .formalParameter => firstOf (rule .restElement) [rule .bindingElement]
  | .formalParameters => commaTerminated (rule .formalParameter)
  -- declarations and loops
  | .variableDeclarator => sequence [rule .bindingTarget, optional initializer]
  | .variableDeclaration =>
    sequence [rule .declarationKind, layout, commaSeparated (rule .variableDeclarator)]
  | .variableStatement => sequence [rule .variableDeclaration, endOfStatement]
  | .forInit => firstOf (rule .variableDeclaration) [rule .expression]
  | .forTest => rule .expression
  | .forUpdate => rule .expression
  | .forDeclaration => sequence [rule .declarationKind, layout, rule .bindingTarget]
  | .forBinding => firstOf (rule .forDeclaration) [rule .leftHandSideExpression]
  | .forStatement =>
    sequence [keyword .for, layout, word "(", layout, optional (rule .forInit), layout, word ";",
      layout, optional (rule .forTest), layout, word ";", layout, optional (rule .forUpdate),
      layout, word ")", layout, rule .statement]
  | .forInStatement => sequence (keyword .for :: forItems .in .expression)
  | .forOfStatement => sequence (keyword .for :: forItems .of .assignmentExpression)
  | .forAwaitOfStatement =>
    sequence (keyword .for :: layout :: keyword .await :: forItems .of .assignmentExpression)
  | .whileStatement =>
    sequence [keyword .while, layout, parenthesized (rule .expression), layout, rule .statement]
  | .doWhileStatement =>
    sequence [keyword .do, layout, rule .statement, layout, keyword .while, layout,
      parenthesized (rule .expression), optional (sequence [layout, word ";"])]
  -- statements other than loops, and their parts
  | .block => statements
  | .functionDeclaration =>
    sequence [rule .functionHead, layout, rule .identifier, layout, rule .functionRest]
  | .classDeclaration => sequence [keyword .class, layout, rule .identifier, rule .classTail]
  | .ifStatement =>
    sequence [keyword .if, layout, parenthesized (rule .expression), layout, rule .statement,
      optional (rule .elseClause)]
  | .elseClause => sequence [layout, keyword .else, layout, rule .statement]
  | .continueStatement =>
    sequence [keyword .continue, optional (rule .statementLabel), endOfStatement]
  | .breakStatement =>
    sequence [keyword .break, optional (rule .statementLabel), endOfStatement]
  | .returnStatement =>
    sequence [keyword .return, optional (rule .sameLineExpression), endOfStatement]
  | .throwStatement => sequence [keyword .throw, rule .sameLineExpression, endOfStatement]
  | .tryStatement =>
    sequence [keyword .try, layout, rule .block, optional (rule .catchClause),
      optional (rule .finallyClause)]
  | .catchClause =>
    sequence [layout, keyword .catch, optional (rule .catchParameter), layout, rule .block]
  | .catchParameter => sequence [layout, parenthesized (rule .bindingTarget)]
  | .finallyClause => sequence [layout, keyword .finally, layout, rule .block]
  | .switchStatement =>
    sequence [keyword .switch, layout, parenthesized (rule .expression), layout, word "\x7b",
      rule .switchCases, layout, word "\x7d"]
  | .switchCases => many (sequence [layout, rule .switchCase])
  | .switchCase => sequence [rule .caseLabel, rule .statementList]
  | .caseLabel => firstOf (rule .caseTest) [rule .defaultTest]
  | .caseTest => sequence [keyword .case, layout, rule .expression, layout, word ":"]
  | .defaultTest => sequence [keyword .default, layout, word ":"]
  | .debuggerStatement => sequence [keyword .debugger, endOfStatement]
  | .labeledStatement => sequence [rule .identifier, layout, word ":", layout, rule .statement]
  | .statementStartGuard =>
    firstOf (word "\x7b") [keyword .function, keyword .class,
      sequence [keyword .async, sameLine, keyword .function],
      sequence [keyword .let, layout, word "["]]
  | .expressionStatement =>
    sequence [absent (rule .statementStartGuard), rule .expression, endOfStatement]
  | .statement =>
    firstOf (rule .block)
      [rule .variableStatement, rule .emptyStatement, rule .functionDeclaration,
       rule .classDeclaration, rule .ifStatement, rule .forAwaitOfStatement, rule .forInStatement,
       rule .forOfStatement, rule .forStatement, rule .whileStatement, rule .doWhileStatement,
       rule .continueStatement, rule .breakStatement, rule .returnStatement, rule .throwStatement,
       rule .tryStatement, rule .switchStatement, rule .debuggerStatement, rule .labeledStatement,
       rule .expressionStatement]
  | .statementList => many (sequence [layout, rule .statement])
  | .program => sequence [rule .statementList, layout]

end LoopBound.Grammar
