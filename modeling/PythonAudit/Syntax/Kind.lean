/-!
# Kinds of syntax nodes

`Kind` lists the kinds of nodes in a concrete tree of Python source and `Field` the roles that a
child can play in its parent. `Kind.token` is the kind of every token that has no name of its own,
such as a bracket or a keyword: the label of the node holds its spelling.
-/

namespace PythonAudit

namespace Syntax

/-- The kind of a node. -/
inductive Kind where
  | program
  | importStatement
  | importPrefix
  | relativeImport
  | futureImportStatement
  | importFromStatement
  | aliasedImport
  | wildcardImport
  | printStatement
  | chevron
  | assertStatement
  | expressionStatement
  | namedExpression
  | returnStatement
  | deleteStatement
  | raiseStatement
  | passStatement
  | breakStatement
  | continueStatement
  | ifStatement
  | elifClause
  | elseClause
  | matchStatement
  | block
  | caseClause
  | forStatement
  | whileStatement
  | tryStatement
  | exceptClause
  | exceptGroupClause
  | finallyClause
  | withStatement
  | withClause
  | withItem
  | functionDefinition
  | parameters
  | lambdaParameters
  | listSplat
  | dictionarySplat
  | globalStatement
  | nonlocalStatement
  | execStatement
  | typeAliasStatement
  | classDefinition
  | typeParameter
  | parenthesizedExpression
  | argumentList
  | decoratedDefinition
  | decorator
  | expressionList
  | dottedName
  | casePattern
  | unionPattern
  | dictPattern
  | keywordPattern
  | splatPattern
  | classPattern
  | complexPattern
  | tuplePattern
  | listPattern
  | defaultParameter
  | typedDefaultParameter
  | typedParameter
  | listSplatPattern
  | dictionarySplatPattern
  | asPattern
  | asPatternTarget
  | notOperator
  | booleanOperator
  | binaryOperator
  | unaryOperator
  | comparisonOperator
  | lambdaExpression
  | assignment
  | augmentedAssignment
  | patternList
  | yieldExpression
  | attributeAccess
  | subscript
  | slice
  | ellipsis
  | call
  | typeExpression
  | splatType
  | genericType
  | unionType
  | constrainedType
  | memberType
  | keywordArgument
  | list
  | set
  | tuple
  | dictionary
  | pair
  | listComprehension
  | dictionaryComprehension
  | setComprehension
  | generatorExpression
  | forInClause
  | ifClause
  | conditionalExpression
  | concatenatedString
  | string
  | stringStart
  | stringContent
  | stringEnd
  | interpolation
  | formatSpecifier
  | formatExpression
  | typeConversion
  | escapeSequence
  | escapeInterpolation
  | integer
  | float
  | identifier
  | trueLiteral
  | falseLiteral
  | noneLiteral
  | awaitExpression
  | comment
  | lineContinuation
  | positionalSeparator
  | keywordSeparator
  | error
  | token
deriving DecidableEq, Repr, Inhabited

/-- The written name of a kind; tokens are named by their spelling instead. -/
def Kind.written : Kind → String
  | .program => "module"
  | .importStatement => "import_statement"
  | .importPrefix => "import_prefix"
  | .relativeImport => "relative_import"
  | .futureImportStatement => "future_import_statement"
  | .importFromStatement => "import_from_statement"
  | .aliasedImport => "aliased_import"
  | .wildcardImport => "wildcard_import"
  | .printStatement => "print_statement"
  | .chevron => "chevron"
  | .assertStatement => "assert_statement"
  | .expressionStatement => "expression_statement"
  | .namedExpression => "named_expression"
  | .returnStatement => "return_statement"
  | .deleteStatement => "delete_statement"
  | .raiseStatement => "raise_statement"
  | .passStatement => "pass_statement"
  | .breakStatement => "break_statement"
  | .continueStatement => "continue_statement"
  | .ifStatement => "if_statement"
  | .elifClause => "elif_clause"
  | .elseClause => "else_clause"
  | .matchStatement => "match_statement"
  | .block => "block"
  | .caseClause => "case_clause"
  | .forStatement => "for_statement"
  | .whileStatement => "while_statement"
  | .tryStatement => "try_statement"
  | .exceptClause => "except_clause"
  | .exceptGroupClause => "except_group_clause"
  | .finallyClause => "finally_clause"
  | .withStatement => "with_statement"
  | .withClause => "with_clause"
  | .withItem => "with_item"
  | .functionDefinition => "function_definition"
  | .parameters => "parameters"
  | .lambdaParameters => "lambda_parameters"
  | .listSplat => "list_splat"
  | .dictionarySplat => "dictionary_splat"
  | .globalStatement => "global_statement"
  | .nonlocalStatement => "nonlocal_statement"
  | .execStatement => "exec_statement"
  | .typeAliasStatement => "type_alias_statement"
  | .classDefinition => "class_definition"
  | .typeParameter => "type_parameter"
  | .parenthesizedExpression => "parenthesized_expression"
  | .argumentList => "argument_list"
  | .decoratedDefinition => "decorated_definition"
  | .decorator => "decorator"
  | .expressionList => "expression_list"
  | .dottedName => "dotted_name"
  | .casePattern => "case_pattern"
  | .unionPattern => "union_pattern"
  | .dictPattern => "dict_pattern"
  | .keywordPattern => "keyword_pattern"
  | .splatPattern => "splat_pattern"
  | .classPattern => "class_pattern"
  | .complexPattern => "complex_pattern"
  | .tuplePattern => "tuple_pattern"
  | .listPattern => "list_pattern"
  | .defaultParameter => "default_parameter"
  | .typedDefaultParameter => "typed_default_parameter"
  | .typedParameter => "typed_parameter"
  | .listSplatPattern => "list_splat_pattern"
  | .dictionarySplatPattern => "dictionary_splat_pattern"
  | .asPattern => "as_pattern"
  | .asPatternTarget => "as_pattern_target"
  | .notOperator => "not_operator"
  | .booleanOperator => "boolean_operator"
  | .binaryOperator => "binary_operator"
  | .unaryOperator => "unary_operator"
  | .comparisonOperator => "comparison_operator"
  | .lambdaExpression => "lambda"
  | .assignment => "assignment"
  | .augmentedAssignment => "augmented_assignment"
  | .patternList => "pattern_list"
  | .yieldExpression => "yield"
  | .attributeAccess => "attribute"
  | .subscript => "subscript"
  | .slice => "slice"
  | .ellipsis => "ellipsis"
  | .call => "call"
  | .typeExpression => "type"
  | .splatType => "splat_type"
  | .genericType => "generic_type"
  | .unionType => "union_type"
  | .constrainedType => "constrained_type"
  | .memberType => "member_type"
  | .keywordArgument => "keyword_argument"
  | .list => "list"
  | .set => "set"
  | .tuple => "tuple"
  | .dictionary => "dictionary"
  | .pair => "pair"
  | .listComprehension => "list_comprehension"
  | .dictionaryComprehension => "dictionary_comprehension"
  | .setComprehension => "set_comprehension"
  | .generatorExpression => "generator_expression"
  | .forInClause => "for_in_clause"
  | .ifClause => "if_clause"
  | .conditionalExpression => "conditional_expression"
  | .concatenatedString => "concatenated_string"
  | .string => "string"
  | .stringStart => "string_start"
  | .stringContent => "string_content"
  | .stringEnd => "string_end"
  | .interpolation => "interpolation"
  | .formatSpecifier => "format_specifier"
  | .formatExpression => "format_expression"
  | .typeConversion => "type_conversion"
  | .escapeSequence => "escape_sequence"
  | .escapeInterpolation => "escape_interpolation"
  | .integer => "integer"
  | .float => "float"
  | .identifier => "identifier"
  | .trueLiteral => "true"
  | .falseLiteral => "false"
  | .noneLiteral => "none"
  | .awaitExpression => "await"
  | .comment => "comment"
  | .lineContinuation => "line_continuation"
  | .positionalSeparator => "positional_separator"
  | .keywordSeparator => "keyword_separator"
  | .error => "ERROR"
  | .token => ""

/-- The role of a child in its parent. -/
inductive Field where
  | aliasName
  | alternative
  | argument
  | arguments
  | member
  | body
  | cause
  | code
  | condition
  | consequence
  | definition
  | expression
  | formatSpecifier
  | function
  | guard
  | key
  | left
  | moduleName
  | name
  | object
  | operator
  | operators
  | parameters
  | returnType
  | right
  | subject
  | subscript
  | superclasses
  | typeAnnotated
  | typeConversion
  | typeParameters
  | value
deriving DecidableEq, Repr, Inhabited

/-- The written name of a role. -/
def Field.written : Field → String
  | .aliasName => "alias"
  | .alternative => "alternative"
  | .argument => "argument"
  | .arguments => "arguments"
  | .member => "attribute"
  | .body => "body"
  | .cause => "cause"
  | .code => "code"
  | .condition => "condition"
  | .consequence => "consequence"
  | .definition => "definition"
  | .expression => "expression"
  | .formatSpecifier => "format_specifier"
  | .function => "function"
  | .guard => "guard"
  | .key => "key"
  | .left => "left"
  | .moduleName => "module_name"
  | .name => "name"
  | .object => "object"
  | .operator => "operator"
  | .operators => "operators"
  | .parameters => "parameters"
  | .returnType => "return_type"
  | .right => "right"
  | .subject => "subject"
  | .subscript => "subscript"
  | .superclasses => "superclasses"
  | .typeAnnotated => "type"
  | .typeConversion => "type_conversion"
  | .typeParameters => "type_parameters"
  | .value => "value"

end Syntax

end PythonAudit
