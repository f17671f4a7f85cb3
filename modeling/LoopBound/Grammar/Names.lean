import LoopBound.Grammar.Rules

/-!
# Names of rules

The names by which a caller may ask for a single rule. Keywords go by their spelling in capitals.
-/

namespace LoopBound.Grammar

open Pattern

/-- The named rules and tokens. -/
def Pattern.names : List (String × Pattern) := [
  ("program", rule .program), ("statement_list", rule .statementList),
  ("statement", rule .statement), ("block", rule .block),
  ("empty_statement", rule .emptyStatement), ("variable_statement", rule .variableStatement),
  ("variable_declaration", rule .variableDeclaration),
  ("declaration_kind", rule .declarationKind), ("variable_declarator", rule .variableDeclarator),
  ("function_declaration", rule .functionDeclaration), ("function_head", rule .functionHead),
  ("async_prefix", rule .asyncPrefix), ("generator_star", rule .generatorStar),
  ("function_rest", rule .functionRest), ("function_body", rule .functionBody),
  ("formal_parameters", rule .formalParameters), ("formal_parameter", rule .formalParameter),
  ("class_declaration", rule .classDeclaration), ("class_tail", rule .classTail),
  ("class_heritage", rule .classHeritage), ("class_members", rule .classMembers),
  ("class_member", rule .classMember), ("method_definition", rule .methodDefinition),
  ("class_field", rule .classField), ("static_prefix", rule .staticPrefix),
  ("if_statement", rule .ifStatement), ("else_clause", rule .elseClause),
  ("for_statement", rule .forStatement), ("for_init", rule .forInit),
  ("for_in_statement", rule .forInStatement), ("for_of_statement", rule .forOfStatement),
  ("for_await_of_statement", rule .forAwaitOfStatement), ("for_binding", rule .forBinding),
  ("for_declaration", rule .forDeclaration), ("while_statement", rule .whileStatement),
  ("do_while_statement", rule .doWhileStatement),
  ("continue_statement", rule .continueStatement), ("break_statement", rule .breakStatement),
  ("statement_label", rule .statementLabel), ("return_statement", rule .returnStatement),
  ("throw_statement", rule .throwStatement), ("same_line_expression", rule .sameLineExpression),
  ("try_statement", rule .tryStatement), ("catch_clause", rule .catchClause),
  ("catch_parameter", rule .catchParameter), ("finally_clause", rule .finallyClause),
  ("switch_statement", rule .switchStatement), ("switch_cases", rule .switchCases),
  ("switch_case", rule .switchCase), ("case_label", rule .caseLabel),
  ("case_test", rule .caseTest), ("default_test", rule .defaultTest),
  ("debugger_statement", rule .debuggerStatement), ("labeled_statement", rule .labeledStatement),
  ("expression_statement", rule .expressionStatement),
  ("statement_start_guard", rule .statementStartGuard), ("eos", rule .statementEnd),
  ("explicit_semicolon", rule .explicitSemicolon), ("line_break_eos", rule .lineBreakEnd),
  ("brace_eos", rule .braceEnd), ("end_eos", rule .inputEnd),
  ("line_terminator", token .lineBreak), ("end_of_input", rule .endOfInput),
  ("binding_target", rule .bindingTarget), ("binding_element", rule .bindingElement),
  ("rest_element", rule .restElement), ("object_pattern", rule .objectPattern),
  ("pattern_properties", rule .patternProperties), ("pattern_property", rule .patternProperty),
  ("keyed_pattern_property", rule .keyedPatternProperty), ("array_pattern", rule .arrayPattern),
  ("array_pattern_item", rule .arrayPatternItem), ("expression", rule .expression),
  ("assignment_expression", rule .assignmentExpression), ("assignment", rule .assignment),
  ("assignment_operator", token .assignmentOperator), ("arrow_function", rule .arrowFunction),
  ("arrow_parameters", rule .arrowParameters),
  ("parenthesized_parameters", rule .parenthesizedParameters), ("arrow_body", rule .arrowBody),
  ("yield_expression", rule .yieldExpression), ("yield_delegate", rule .yieldDelegate),
  ("yield_argument", rule .yieldArgument),
  ("conditional_expression", rule .conditionalExpression),
  ("conditional_tail", rule .conditionalTail), ("binary_expression", rule .binaryExpression),
  ("binary_operator", token .binaryOperator), ("unary_expression", rule .unaryExpression),
  ("prefix_expression", rule .prefixExpression), ("prefix_operator", token .prefixOperator),
  ("await_expression", rule .awaitExpression), ("postfix_expression", rule .postfixExpression),
  ("postfix_operator", rule .postfixMark),
  ("left_hand_side_expression", rule .leftHandSideExpression), ("lhs_head", rule .lhsHead),
  ("lhs_tail", rule .lhsTail), ("new_expression", rule .newExpression),
  ("new_callee", rule .newCallee), ("new_callee_tail", rule .newCalleeTail),
  ("new_arguments", rule .newArguments), ("dot_member", rule .dotMember),
  ("computed_member", rule .computedMember), ("optional_chain", rule .optionalChain),
  ("property_identifier", rule .propertyIdentifier), ("private_name", token .privateName),
  ("arguments", rule .arguments), ("argument_list", rule .argumentList),
  ("argument", rule .argument), ("spread_element", rule .spreadElement),
  ("primary_expression", rule .primaryExpression), ("this_expression", token .thisWord),
  ("super_expression", token .superWord), ("function_expression", rule .functionExpression),
  ("function_name", rule .functionName), ("class_expression", rule .classExpression),
  ("class_name", rule .className), ("parenthesized_expression", rule .parenthesizedExpression),
  ("array_literal", rule .arrayLiteral), ("array_element", rule .arrayElement),
  ("object_literal", rule .objectLiteral), ("property_definitions", rule .propertyDefinitions),
  ("property_definition", rule .propertyDefinition), ("keyed_property", rule .keyedProperty),
  ("shorthand_property", rule .shorthandProperty), ("method_def", rule .methodDef),
  ("accessor_method", rule .accessorMethod), ("accessor_kind", rule .accessorKind),
  ("async_method", rule .asyncMethod), ("generator_method", rule .generatorMethod),
  ("plain_method", rule .plainMethod), ("method_star", rule .methodStar),
  ("property_name", rule .propertyName), ("computed_property_name", rule .computedPropertyName),
  ("keyword_literal", token .wordLiteral), ("numeric_literal", token .number),
  ("string_literal", token .string), ("regex_literal", token .regex),
  ("template_literal", rule .templateLiteral), ("template_span", rule .templateSpan),
  ("template_substitution", rule .templateSubstitution), ("template_chars", token .templateText),
  ("identifier", rule .identifier), ("identifier_name", token .name),
  ("reserved_word", token .reservedWord), ("_", token .layout), ("sp", token .sameLine)]

/-- The rule, token or keyword of this name. -/
def Pattern.named? (name : String) : Option Pattern :=
  match Pattern.names.lookup name with
  | some p => some p
  | none => (Keyword.all.find? fun k => k.spelling.toUpper == name).map fun k => token (.keyword k)

end LoopBound.Grammar
