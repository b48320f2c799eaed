import MarkupLint.Script.Grammar

set_option autoImplicit false

namespace MarkupLint.Script

def statementRules : List (String × String) :=
  [ ("file", "a=[statements] END -> program"),
    ("embedded", "star_expressions"),
    ("statements", "statement+"),
    ("statement", "compound_stmt | simple_stmts"),
    ("simple_stmts", "a=simple_stmt !';' NEWLINE | a=';'.simple_stmt+ [';'] NEWLINE"),
    ("simple_stmt memo",
      "assignment | a=star_expressions -> expressionStmt | &'return' return_stmt"
        ++ " | &('import' | 'from') import_stmt | &'raise' raise_stmt | 'pass' -> passStmt"
        ++ " | &'del' del_stmt | &'yield' yield_stmt | &'assert' assert_stmt"
        ++ " | 'break' -> breakStmt | 'continue' -> continueStmt | &'global' global_stmt"
        ++ " | &'nonlocal' nonlocal_stmt"),
    ("compound_stmt",
      "&('def' | '@' | 'async') function_def | &'if' if_stmt | &('class' | '@') class_def"
        ++ " | &('with' | 'async') with_stmt | &('for' | 'async') for_stmt | &'try' try_stmt"
        ++ " | &'while' while_stmt | match_stmt"),
    ("assignment",
      "a=NAME ':' b=expression c=['=' d=annotated_rhs] -> annotatedStmt"
        ++ " | a=('(' b=single_target ')' | single_subscript_attribute_target) ':' b=expression"
        ++ " c=['=' d=annotated_rhs] -> annotatedPlace"
        ++ " | a=(z=star_targets '=')+ b=(yield_expr | star_expressions) !'=' -> assignStmt"
        ++ " | a=single_target augassign ~ c=(yield_expr | star_expressions) -> augmentedStmt"
        ++ " | invalid_assignment"),
    ("annotated_rhs", "yield_expr | star_expressions"),
    ("augassign",
      "'+=' | '-=' | '*=' | '@=' | '/=' | '%=' | '&=' | '|=' | '^=' | '<<=' | '>>=' | '**=' | '//='"),
    ("return_stmt", "'return' a=[star_expressions] -> returnStmt"),
    ("raise_stmt", "'raise' a=expression b=['from' z=expression] -> raiseStmt | 'raise' -> raiseStmt"),
    ("global_stmt", "'global' a=','.NAME+ -> globalStmt"),
    ("nonlocal_stmt", "'nonlocal' a=','.NAME+ -> nonlocalStmt"),
    ("del_stmt", "'del' a=del_targets &(';' | NEWLINE) -> deleteStmt | invalid_del_stmt"),
    ("yield_stmt", "a=yield_expr -> expressionStmt"),
    ("assert_stmt", "'assert' a=expression b=[',' z=expression] -> assertStmt"),
    ("import_stmt", "import_name | import_from"),
    ("import_name", "'import' a=dotted_as_names -> importStmt"),
    ("import_from",
      "'from' a=('.' | '...')* b=dotted_name 'import' c=import_from_targets -> importFrom"
        ++ " | 'from' a=('.' | '...')+ 'import' b=import_from_targets -> importRelative"),
    ("import_from_targets",
      "'(' a=import_from_as_names [','] ')' | a=import_from_as_names !',' | '*'"
        ++ " | invalid_import_from_targets"),
    ("import_from_as_names", "','.import_from_as_name+"),
    ("import_from_as_name", "a=NAME b=['as' z=NAME] -> importName"),
    ("dotted_as_names", "','.dotted_as_name+"),
    ("dotted_as_name", "a=dotted_name b=['as' z=NAME] -> importName"),
    ("dotted_name memo", "NAME << '.' b=NAME -> dotted"),
    ("block memo", "NEWLINE INDENT a=statements DEDENT | simple_stmts | invalid_block"),
    ("decorators", "('@' f=named_expression NEWLINE)+"),
    ("class_def", "a=decorators b=class_def_raw -> decorated | class_def_raw"),
    ("class_def_raw",
      "invalid_class_def_raw | 'class' a=NAME b=['(' z=[arguments] ')'] ':' c=block -> classDef"),
    ("function_def", "a=decorators b=function_def_raw -> decorated | function_def_raw"),
    ("function_def_raw",
      "invalid_def_raw"
        ++ " | 'def' n=NAME &&'(' p=[params] ')' a=['->' z=expression] &&':' b=block -> functionDef"
        ++ " | 'async' 'def' n=NAME &&'(' p=[params] ')' a=['->' z=expression] &&':' b=block"
        ++ " -> asyncFunctionDef"),
    ("if_stmt",
      "invalid_if_stmt | 'if' a=named_expression ':' b=block c=elif_stmt -> ifStmt"
        ++ " | 'if' a=named_expression ':' b=block c=[else_block] -> ifStmt"),
    ("elif_stmt",
      "invalid_elif_stmt | 'elif' a=named_expression ':' b=block c=elif_stmt -> ifStmt"
        ++ " | 'elif' a=named_expression ':' b=block c=[else_block] -> ifStmt"),
    ("else_block", "invalid_else_stmt | 'else' &&':' b=block"),
    ("while_stmt",
      "invalid_while_stmt | 'while' a=named_expression ':' b=block c=[else_block] -> whileStmt"),
    ("for_stmt",
      "invalid_for_stmt"
        ++ " | 'for' t=star_targets 'in' ~ e=star_expressions ':' b=block c=[else_block] -> forStmt"
        ++ " | 'async' 'for' t=star_targets 'in' ~ e=star_expressions ':' b=block c=[else_block]"
        ++ " -> asyncForStmt | invalid_for_target"),
    ("with_stmt",
      "invalid_with_stmt_indent | 'with' '(' a=','.with_item+ [','] ')' ':' b=block -> withStmt"
        ++ " | 'with' a=','.with_item+ ':' b=block -> withStmt"
        ++ " | 'async' 'with' '(' a=','.with_item+ [','] ')' ':' b=block -> asyncWithStmt"
        ++ " | 'async' 'with' a=','.with_item+ ':' b=block -> asyncWithStmt | invalid_with_stmt"),
    ("with_item",
      "e=expression 'as' t=star_target &(',' | ')' | ':') -> withItem | invalid_with_item"
        ++ " | e=expression -> withItem"),
    ("try_stmt",
      "invalid_try_stmt | 'try' &&':' b=block f=finally_block -> tryStmt"
        ++ " | 'try' &&':' b=block h=except_block+ e=[else_block] f=[finally_block] -> tryStmt"
        ++ " | 'try' &&':' b=block h=except_star_block+ e=[else_block] f=[finally_block]"
        ++ " -> tryStarStmt"),
    ("except_block",
      "invalid_except_stmt_indent | 'except' e=expression t=['as' z=NAME] ':' b=block -> handler"
        ++ " | 'except' ':' b=block -> handler | invalid_except_stmt"),
    ("except_star_block",
      "invalid_except_star_stmt_indent"
        ++ " | 'except' '*' e=expression t=['as' z=NAME] ':' b=block -> handler"
        ++ " | invalid_except_stmt"),
    ("finally_block", "invalid_finally_stmt | 'finally' &&':' a=block") ]

def parameterRules : List (String × String) :=
  [ ("params", "invalid_parameters | parameters"),
    ("parameters",
      "a=slash_no_default b=param_no_default* c=param_with_default* d=[star_etc] -> parameters"
        ++ " | a=slash_with_default b=param_with_default* c=[star_etc] -> parameters"
        ++ " | a=param_no_default+ b=param_with_default* c=[star_etc] -> parameters"
        ++ " | a=param_with_default+ b=[star_etc] -> parameters | a=star_etc -> parameters"),
    ("slash_no_default", "a=param_no_default+ '/' ',' | a=param_no_default+ '/' &')'"),
    ("slash_with_default",
      "a=param_no_default* b=param_with_default+ '/' ',' -> group"
        ++ " | a=param_no_default* b=param_with_default+ '/' &')' -> group"),
    ("star_etc",
      "invalid_star_etc | '*' a=param_no_default b=param_maybe_default* c=[kwds] -> group"
        ++ " | '*' a=param_no_default_star_annotation b=param_maybe_default* c=[kwds] -> group"
        ++ " | '*' ',' b=param_maybe_default+ c=[kwds] -> group | kwds"),
    ("kwds", "invalid_kwds | '**' a=param_no_default"),
    ("param_no_default", "a=param ',' | a=param &')'"),
    ("param_no_default_star_annotation",
      "a=param_star_annotation ',' | a=param_star_annotation &')'"),
    ("param_with_default", "a=param c=default ',' -> defaulted | a=param c=default &')' -> defaulted"),
    ("param_maybe_default",
      "a=param c=default? ',' -> defaulted | a=param c=default? &')' -> defaulted"),
    ("param", "a=NAME b=annotation? -> parameter"),
    ("param_star_annotation", "a=NAME b=star_annotation -> parameter"),
    ("annotation", "':' a=expression"),
    ("star_annotation", "':' a=star_expression"),
    ("default", "'=' a=expression | invalid_default"),
    ("lambda_params", "invalid_lambda_parameters | lambda_parameters"),
    ("lambda_parameters",
      "a=lambda_slash_no_default b=lambda_param_no_default* c=lambda_param_with_default*"
        ++ " d=[lambda_star_etc] -> parameters"
        ++ " | a=lambda_slash_with_default b=lambda_param_with_default* c=[lambda_star_etc]"
        ++ " -> parameters"
        ++ " | a=lambda_param_no_default+ b=lambda_param_with_default* c=[lambda_star_etc]"
        ++ " -> parameters"
        ++ " | a=lambda_param_with_default+ b=[lambda_star_etc] -> parameters"
        ++ " | a=lambda_star_etc -> parameters"),
    ("lambda_slash_no_default",
      "a=lambda_param_no_default+ '/' ',' | a=lambda_param_no_default+ '/' &':'"),
    ("lambda_slash_with_default",
      "a=lambda_param_no_default* b=lambda_param_with_default+ '/' ',' -> group"
        ++ " | a=lambda_param_no_default* b=lambda_param_with_default+ '/' &':' -> group"),
    ("lambda_star_etc",
      "invalid_lambda_star_etc"
        ++ " | '*' a=lambda_param_no_default b=lambda_param_maybe_default* c=[lambda_kwds] -> group"
        ++ " | '*' ',' b=lambda_param_maybe_default+ c=[lambda_kwds] -> group | lambda_kwds"),
    ("lambda_kwds", "invalid_lambda_kwds | '**' a=lambda_param_no_default"),
    ("lambda_param_no_default", "a=lambda_param ',' | a=lambda_param &':'"),
    ("lambda_param_with_default",
      "a=lambda_param c=default ',' -> defaulted | a=lambda_param c=default &':' -> defaulted"),
    ("lambda_param_maybe_default",
      "a=lambda_param c=default? ',' -> defaulted | a=lambda_param c=default? &':' -> defaulted"),
    ("lambda_param", "a=NAME -> parameter") ]

def patternRules : List (String × String) :=
  [ ("match_stmt",
      "%match s=subject_expr ':' NEWLINE INDENT c=case_block+ DEDENT -> matchStmt"
        ++ " | invalid_match_stmt"),
    ("subject_expr",
      "a=star_named_expression ',' b=star_named_expressions? -> tuple | named_expression"),
    ("case_block",
      "invalid_case_block | %case p=patterns g=guard? ':' b=block -> matchCase"),
    ("guard", "'if' a=named_expression"),
    ("patterns", "a=open_sequence_pattern -> sequencePattern | pattern"),
    ("pattern", "as_pattern | or_pattern"),
    ("as_pattern", "p=or_pattern 'as' t=pattern_capture_target -> asPattern | invalid_as_pattern"),
    ("or_pattern", "a='|'.closed_pattern+ -> orPattern"),
    ("closed_pattern memo",
      "literal_pattern | capture_pattern | wildcard_pattern | value_pattern | group_pattern"
        ++ " | sequence_pattern | mapping_pattern | class_pattern"),
    ("literal_pattern",
      "a=signed_number !('+' | '-') -> valuePattern | a=complex_number -> valuePattern"
        ++ " | a=strings -> valuePattern | a='None' -> valuePattern | a='True' -> valuePattern"
        ++ " | a='False' -> valuePattern"),
    ("literal_expr",
      "a=signed_number !('+' | '-') | complex_number | strings | 'None' | 'True' | 'False'"),
    ("complex_number",
      "a=signed_real_number o='+' b=imaginary_number -> binary"
        ++ " | a=signed_real_number o='-' b=imaginary_number -> binary"),
    ("signed_number", "a=NUMBER => number | o='-' a=NUMBER -> unary"),
    ("signed_real_number", "real_number | o='-' a=real_number -> unary"),
    ("real_number", "a=NUMBER => real"),
    ("imaginary_number", "a=NUMBER => imaginary"),
    ("capture_pattern", "a=pattern_capture_target -> capturePattern"),
    ("pattern_capture_target", "!%_ a=NAME !('.' | '(' | '=')"),
    ("wildcard_pattern", "%_ -> wildcardPattern"),
    ("value_pattern", "a=attr !('.' | '(' | '=') -> valuePattern"),
    ("attr", "a=NAME '.' b=NAME -> attribute << '.' b=NAME -> attribute"),
    ("name_or_attr", "NAME << '.' b=NAME -> attribute"),
    ("group_pattern", "'(' a=pattern ')'"),
    ("sequence_pattern",
      "'[' a=maybe_sequence_pattern? ']' -> sequencePattern"
        ++ " | '(' a=open_sequence_pattern? ')' -> sequencePattern"),
    ("open_sequence_pattern", "a=maybe_star_pattern ',' b=maybe_sequence_pattern? -> group"),
    ("maybe_sequence_pattern", "a=','.maybe_star_pattern+ ','?"),
    ("maybe_star_pattern", "star_pattern | pattern"),
    ("star_pattern memo",
      "'*' a=pattern_capture_target -> starPattern | '*' wildcard_pattern -> starPattern"),
    ("mapping_pattern",
      "LBRACE RBRACE -> mappingPattern | LBRACE a=double_star_pattern ','? RBRACE -> mappingPattern"
        ++ " | LBRACE a=items_pattern ',' b=double_star_pattern ','? RBRACE -> mappingPattern"
        ++ " | LBRACE a=items_pattern ','? RBRACE -> mappingPattern"),
    ("items_pattern", "','.key_value_pattern+"),
    ("key_value_pattern", "a=(literal_expr | attr) ':' b=pattern -> mappingItem"),
    ("double_star_pattern", "'**' a=pattern_capture_target -> mappingRest"),
    ("class_pattern",
      "a=name_or_attr '(' ')' -> classPattern"
        ++ " | a=name_or_attr '(' b=positional_patterns ','? ')' -> classPattern"
        ++ " | a=name_or_attr '(' b=keyword_patterns ','? ')' -> classPattern"
        ++ " | a=name_or_attr '(' b=positional_patterns ',' c=keyword_patterns ','? ')'"
        ++ " -> classPattern | invalid_class_pattern"),
    ("positional_patterns", "','.pattern+"),
    ("keyword_patterns", "','.keyword_pattern+"),
    ("keyword_pattern", "a=NAME '=' b=pattern -> keywordPattern") ]

def expressionRules : List (String × String) :=
  [ ("expressions",
      "a=expression b=(',' c=expression)+ [','] -> tuple | a=expression ',' -> tuple | expression"),
    ("expression memo",
      "invalid_expression | invalid_legacy_expression"
        ++ " | a=disjunction 'if' b=disjunction 'else' c=expression -> conditional"
        ++ " | disjunction | lambdef"),
    ("yield_expr",
      "'yield' 'from' a=expression -> yieldFrom | 'yield' a=[star_expressions] -> yieldExpr"),
    ("star_expressions",
      "a=star_expression b=(',' c=star_expression)+ [','] -> tuple | a=star_expression ',' -> tuple"
        ++ " | star_expression"),
    ("star_expression memo", "'*' a=bitwise_or -> starred | expression"),
    ("star_named_expressions", "a=','.star_named_expression+ [',']"),
    ("star_named_expression", "'*' a=bitwise_or -> starred | named_expression"),
    ("assignment_expression", "a=NAME ':=' ~ b=expression -> namedExpr"),
    ("named_expression", "assignment_expression | invalid_named_expression | a=expression !':='"),
    ("disjunction memo", "a=conjunction b=('or' c=conjunction)+ -> boolOp | conjunction"),
    ("conjunction memo", "a=inversion b=('and' c=inversion)+ -> boolOp | inversion"),
    ("inversion memo", "'not' a=inversion -> inversion | comparison"),
    ("comparison", "a=bitwise_or b=comparison_part+ -> compare | bitwise_or"),
    ("comparison_part",
      "'==' a=bitwise_or -> comparePart | '!=' a=bitwise_or -> comparePart"
        ++ " | '<=' a=bitwise_or -> comparePart | '<' a=bitwise_or -> comparePart"
        ++ " | '>=' a=bitwise_or -> comparePart | '>' a=bitwise_or -> comparePart"
        ++ " | 'not' 'in' a=bitwise_or -> comparePart | 'in' a=bitwise_or -> inPart"
        ++ " | 'is' 'not' a=bitwise_or -> isNotPart | 'is' a=bitwise_or -> isPart"),
    ("bitwise_or memo", "bitwise_xor << o='|' b=bitwise_xor -> binary"),
    ("bitwise_xor memo", "bitwise_and << o='^' b=bitwise_and -> binary"),
    ("bitwise_and memo", "shift_expr << o='&' b=shift_expr -> binary"),
    ("shift_expr memo", "sum << o='<<' b=sum -> binary << o='>>' b=sum -> binary"),
    ("sum memo", "term << o='+' b=term -> binary << o='-' b=term -> binary"),
    ("term memo",
      "factor << o='*' b=factor -> binary << o='/' b=factor -> binary << o='//' b=factor -> binary"
        ++ " << o='%' b=factor -> binary << o='@' b=factor -> binary"),
    ("factor memo",
      "o='+' a=factor -> unary | o='-' a=factor -> unary | o='~' a=factor -> unary | power"),
    ("power", "a=await_primary o='**' b=factor -> binary | await_primary"),
    ("await_primary memo", "'await' a=primary -> awaitExpr | primary"),
    ("primary memo",
      "atom << '.' b=NAME -> attribute << b=genexp -> call << '(' b=[arguments] ')' -> call"
        ++ " << '[' b=slices ']' -> subscript"),
    ("slices", "a=slice !',' | a=','.(slice | starred_expression)+ [','] -> tuple"),
    ("slice",
      "a=[expression] ':' b=[expression] c=[':' d=[expression]] -> slice | named_expression"),
    ("atom",
      "NAME | 'True' | 'False' | 'None' | &STRING strings | a=NUMBER => number | &'(' (tuple | group | genexp)"
        ++ " | &'[' (list | listcomp) | &LBRACE (dict | set | dictcomp | setcomp) | '...'"),
    ("group", "'(' a=(yield_expr | named_expression) ')' | invalid_group"),
    ("lambdef", "'lambda' a=[lambda_params] ':' b=expression -> lambdaExpr"),
    ("strings memo", "a=STRING+ => strings"),
    ("list", "'[' a=[star_named_expressions] ']' -> listDisplay"),
    ("tuple", "'(' a=[y=star_named_expression ',' z=[star_named_expressions]] ')' -> tuple"),
    ("set", "LBRACE a=star_named_expressions RBRACE -> setDisplay"),
    ("dict",
      "LBRACE a=[double_starred_kvpairs] RBRACE -> dictDisplay"
        ++ " | LBRACE invalid_double_starred_kvpairs RBRACE"),
    ("double_starred_kvpairs", "a=','.double_starred_kvpair+ [',']"),
    ("double_starred_kvpair", "'**' a=bitwise_or -> dictUnpacking | kvpair"),
    ("kvpair", "a=expression ':' b=expression -> pair"),
    ("for_if_clauses", "for_if_clause+"),
    ("for_if_clause",
      "'async' 'for' a=star_targets 'in' ~ b=disjunction c=('if' z=disjunction)* -> asyncClause"
        ++ " | 'for' a=star_targets 'in' ~ b=disjunction c=('if' z=disjunction)* -> clause"
        ++ " | invalid_for_target"),
    ("listcomp", "'[' a=named_expression b=for_if_clauses ']' -> listComp | invalid_comprehension"),
    ("setcomp",
      "LBRACE a=named_expression b=for_if_clauses RBRACE -> setComp | invalid_comprehension"),
    ("genexp",
      "'(' a=(assignment_expression | e=expression !':=') b=for_if_clauses ')' -> generator"
        ++ " | invalid_comprehension"),
    ("dictcomp", "LBRACE a=kvpair b=for_if_clauses RBRACE -> dictComp | invalid_dict_comprehension"),
    ("arguments memo", "a=args [','] &')' | invalid_arguments"),
    ("args",
      "a=','.(starred_expression | a=(assignment_expression | e=expression !':=') !'=')+"
        ++ " b=[',' k=kwargs] -> arguments | a=kwargs -> arguments"),
    ("kwargs",
      "a=','.kwarg_or_starred+ ',' b=','.kwarg_or_double_starred+ -> group"
        ++ " | ','.kwarg_or_starred+ | ','.kwarg_or_double_starred+"),
    ("starred_expression", "'*' a=expression -> starred"),
    ("kwarg_or_starred", "invalid_kwarg | a=NAME '=' b=expression -> keyword | starred_expression"),
    ("kwarg_or_double_starred",
      "invalid_kwarg | a=NAME '=' b=expression -> keyword | '**' a=expression -> doubleStarred") ]

def targetRules : List (String × String) :=
  [ ("star_targets", "a=star_target !',' | a=star_target b=(',' c=star_target)* [','] -> tuple"),
    ("star_targets_list_seq", "a=','.star_target+ [',']"),
    ("star_targets_tuple_seq",
      "a=star_target b=(',' c=star_target)+ [','] -> group | a=star_target ','"),
    ("star_target memo", "'*' a=(!'*' star_target) -> starred | target_with_star_atom"),
    ("target_with_star_atom memo",
      "a=t_primary '.' b=NAME !t_lookahead -> attribute"
        ++ " | a=t_primary '[' b=slices ']' !t_lookahead -> subscript | star_atom"),
    ("star_atom",
      "NAME | '(' a=target_with_star_atom ')' | '(' a=[star_targets_tuple_seq] ')' -> tuple"
        ++ " | '[' a=[star_targets_list_seq] ']' -> listDisplay"),
    ("single_target", "single_subscript_attribute_target | NAME | '(' a=single_target ')'"),
    ("single_subscript_attribute_target",
      "a=t_primary '.' b=NAME !t_lookahead -> attribute"
        ++ " | a=t_primary '[' b=slices ']' !t_lookahead -> subscript"),
    ("t_primary memo",
      "a=atom &t_lookahead << '.' b=NAME &t_lookahead -> attribute"
        ++ " << '[' b=slices ']' &t_lookahead -> subscript << b=genexp &t_lookahead -> call"
        ++ " << '(' b=[arguments] ')' &t_lookahead -> call"),
    ("t_lookahead", "'(' | '[' | '.'"),
    ("del_targets", "a=','.del_target+ [',']"),
    ("del_target memo",
      "a=t_primary '.' b=NAME !t_lookahead -> attribute"
        ++ " | a=t_primary '[' b=slices ']' !t_lookahead -> subscript | del_t_atom"),
    ("del_t_atom",
      "NAME | '(' a=del_target ')' | '(' a=[del_targets] ')' -> tuple"
        ++ " | '[' a=[del_targets] ']' -> listDisplay") ]

def expressionFaults : List (String × String) :=
  [ ("invalid_arguments",
      "a=args ',' '*' => here `iterable argument unpacking follows keyword argument unpacking`"
        ++ " | a=expression b=for_if_clauses ',' [args | expression for_if_clauses]"
        ++ " => here `Generator expression must be parenthesized`"
        ++ " | a=NAME b='=' expression for_if_clauses"
        ++ " => here `invalid syntax. Maybe you meant '==' or ':=' instead of '='?`"
        ++ " | a=args b=for_if_clauses => generator"
        ++ " | args ',' a=expression b=for_if_clauses"
        ++ " => here `Generator expression must be parenthesized` | a=args ',' args => argument"),
    ("invalid_kwarg",
      "a=('True' | 'False' | 'None') b='=' => here `cannot assign to %s`"
        ++ " | a=NAME b='=' expression for_if_clauses"
        ++ " => here `invalid syntax. Maybe you meant '==' or ':=' instead of '='?`"
        ++ " | !(NAME '=') a=expression b='='"
        ++ " => here `expression cannot contain assignment, perhaps you meant \"==\"?`"),
    ("expression_without_invalid plain",
      "a=disjunction 'if' b=disjunction 'else' c=expression -> conditional | disjunction | lambdef"),
    ("invalid_legacy_expression", "a=NAME !'(' b=star_expressions => call"),
    ("invalid_expression",
      "!(NAME STRING | SOFT) a=disjunction b=expression_without_invalid => comma"
        ++ " | a=disjunction 'if' b=disjunction !('else' | ':')"
        ++ " => here `expected 'else' after 'if' expression`"),
    ("invalid_named_expression memo",
      "a=expression ':=' expression => here `cannot use assignment expressions with %s`"
        ++ " | a=NAME '=' b=bitwise_or !('=' | ':=')"
        ++ " => here `invalid syntax. Maybe you meant '==' or ':=' instead of '='?`"
        ++ " | !(list | tuple | genexp | 'True' | 'None' | 'False') a=bitwise_or b='=' bitwise_or"
        ++ " !('=' | ':=')"
        ++ " => here `cannot assign to %s here. Maybe you meant '==' instead of '='?`"),
    ("invalid_comprehension",
      "('[' | '(' | LBRACE) a=starred_expression for_if_clauses"
        ++ " => here `iterable unpacking cannot be used in comprehension`"
        ++ " | ('[' | LBRACE) a=star_named_expression ',' b=star_named_expressions for_if_clauses"
        ++ " => here `did you forget parentheses around the comprehension target?`"
        ++ " | ('[' | LBRACE) a=star_named_expression b=',' for_if_clauses"
        ++ " => here `did you forget parentheses around the comprehension target?`"),
    ("invalid_dict_comprehension",
      "LBRACE a='**' bitwise_or for_if_clauses RBRACE"
        ++ " => here `dict unpacking cannot be used in dict comprehension`"),
    ("invalid_group",
      "'(' a=starred_expression ')' => here `cannot use starred expression here`"
        ++ " | '(' a='**' expression ')' => here `cannot use double starred expression here`"),
    ("invalid_double_starred_kvpairs",
      "','.double_starred_kvpair+ ',' invalid_kvpair"
        ++ " | expression ':' a='*' bitwise_or"
        ++ " => here `cannot use a starred expression in a dictionary value`"
        ++ " | expression a=':' &(RBRACE | ',')"
        ++ " => here `expression expected after dictionary key and ':'`"),
    ("invalid_kvpair",
      "a=expression !':' => here `':' expected after dictionary key`"
        ++ " | expression ':' a='*' bitwise_or"
        ++ " => here `cannot use a starred expression in a dictionary value`"
        ++ " | expression a=':' &(RBRACE | ',')"
        ++ " => here `expression expected after dictionary key and ':'`") ]

def parameterFaults : List (String × String) :=
  [ ("invalid_parameters",
      "param_no_default* invalid_parameters_helper a=param_no_default"
        ++ " => here `non-default argument follows default argument`"
        ++ " | param_no_default* a='(' param_no_default+ ','? b=')'"
        ++ " => here `Function parameters cannot be parenthesized`"
        ++ " | a='/' ',' => here `at least one argument must precede /`"
        ++ " | (slash_no_default | slash_with_default) param_maybe_default* a='/'"
        ++ " => here `/ may appear only once`"
        ++ " | (slash_no_default | slash_with_default)? param_maybe_default* '*'"
        ++ " (',' | param_no_default) param_maybe_default* a='/' => here `/ must be ahead of *`"
        ++ " | param_maybe_default+ '/' a='*' => here `expected comma between / and *`"),
    ("invalid_parameters_helper", "slash_with_default | param_with_default+"),
    ("invalid_default", "a='=' &(')' | ',') => here `expected default value expression`"),
    ("invalid_star_etc",
      "a='*' (')' | ',' (')' | '**')) => here `named arguments must follow bare *`"
        ++ " | '*' param a='=' => here `var-positional argument cannot have default value`"
        ++ " | '*' (param_no_default | ',') param_maybe_default* a='*' (param_no_default | ',')"
        ++ " => here `* argument may appear only once`"),
    ("invalid_kwds",
      "'**' param a='=' => here `var-keyword argument cannot have default value`"
        ++ " | '**' param ',' a=param => here `arguments cannot follow var-keyword argument`"
        ++ " | '**' param ',' a=('*' | '**' | '/')"
        ++ " => here `arguments cannot follow var-keyword argument`"),
    ("invalid_lambda_parameters",
      "lambda_param_no_default* invalid_lambda_parameters_helper a=lambda_param_no_default"
        ++ " => here `non-default argument follows default argument`"
        ++ " | lambda_param_no_default* a='(' ','.lambda_param+ ','? b=')'"
        ++ " => here `Lambda expression parameters cannot be parenthesized`"
        ++ " | a='/' ',' => here `at least one argument must precede /`"
        ++ " | (lambda_slash_no_default | lambda_slash_with_default) lambda_param_maybe_default*"
        ++ " a='/' => here `/ may appear only once`"
        ++ " | (lambda_slash_no_default | lambda_slash_with_default)? lambda_param_maybe_default*"
        ++ " '*' (',' | lambda_param_no_default) lambda_param_maybe_default* a='/'"
        ++ " => here `/ must be ahead of *`"
        ++ " | lambda_param_maybe_default+ '/' a='*' => here `expected comma between / and *`"),
    ("invalid_lambda_parameters_helper", "lambda_slash_with_default | lambda_param_with_default+"),
    ("invalid_lambda_star_etc",
      "'*' (':' | ',' (':' | '**')) => last `named arguments must follow bare *`"
        ++ " | '*' lambda_param a='=' => here `var-positional argument cannot have default value`"
        ++ " | '*' (lambda_param_no_default | ',') lambda_param_maybe_default* a='*'"
        ++ " (lambda_param_no_default | ',') => here `* argument may appear only once`"),
    ("invalid_lambda_kwds",
      "'**' lambda_param a='=' => here `var-keyword argument cannot have default value`"
        ++ " | '**' lambda_param ',' a=lambda_param"
        ++ " => here `arguments cannot follow var-keyword argument`"
        ++ " | '**' lambda_param ',' a=('*' | '**' | '/')"
        ++ " => here `arguments cannot follow var-keyword argument`") ]

def statementFaults : List (String × String) :=
  [ ("invalid_assignment",
      "a=invalid_ann_assign_target ':' expression"
        ++ " => here `only single target (not %s) can be annotated`"
        ++ " | a=star_named_expression ',' star_named_expressions* ':' expression"
        ++ " => here `only single target (not tuple) can be annotated`"
        ++ " | a=expression ':' expression => here `illegal target for annotation`"
        ++ " | (star_targets '=')* a=star_expressions '=' => assign"
        ++ " | (star_targets '=')* a=yield_expr '='"
        ++ " => here `assignment to yield expression not possible`"
        ++ " | a=star_expressions augassign (yield_expr | star_expressions)"
        ++ " => here `'%s' is an illegal expression for augmented assignment`"),
    ("invalid_ann_assign_target", "list | tuple | '(' a=invalid_ann_assign_target ')'"),
    ("invalid_del_stmt", "'del' a=star_expressions => delete"),
    ("invalid_block", "NEWLINE !INDENT => last `expected an indented block`"),
    ("invalid_with_item", "expression 'as' a=expression &(',' | ')' | ':') => assign"),
    ("invalid_for_target", "['async'] 'for' a=star_expressions => loop"),
    ("invalid_import_from_targets",
      "import_from_as_names ',' NEWLINE"
        ++ " => last `trailing comma not allowed without surrounding parentheses`"),
    ("invalid_with_stmt",
      "['async'] 'with' ','.(expression ['as' star_target])+ NEWLINE => last `expected ':'`"
        ++ " | ['async'] 'with' '(' ','.(expressions ['as' star_target])+ ','? ')' NEWLINE"
        ++ " => last `expected ':'`"),
    ("invalid_with_stmt_indent",
      "['async'] a='with' ','.(expression ['as' star_target])+ ':' NEWLINE !INDENT"
        ++ " => last `expected an indented block after 'with' statement on line %d`"
        ++ " | ['async'] a='with' '(' ','.(expressions ['as' star_target])+ ','? ')' ':' NEWLINE"
        ++ " !INDENT => last `expected an indented block after 'with' statement on line %d`"),
    ("invalid_try_stmt",
      "a='try' ':' NEWLINE !INDENT"
        ++ " => last `expected an indented block after 'try' statement on line %d`"
        ++ " | 'try' ':' block !('except' | 'finally') => last `expected 'except' or 'finally' block`"
        ++ " | 'try' ':' block* ((except_block+ except_star_block) | (except_star_block+ except_block))"
        ++ " block* => last `cannot have both 'except' and 'except*' on the same 'try'`"),
    ("invalid_except_stmt",
      "'except' '*'? a=expression ',' expressions ['as' NAME] ':'"
        ++ " => here `multiple exception types must be parenthesized`"
        ++ " | a='except' '*'? expression ['as' NAME] NEWLINE => last `expected ':'`"
        ++ " | a='except' NEWLINE => last `expected ':'`"
        ++ " | 'except' '*' (NEWLINE | ':') => last `expected one or more exception types`"),
    ("invalid_finally_stmt",
      "a='finally' ':' NEWLINE !INDENT"
        ++ " => last `expected an indented block after 'finally' statement on line %d`"),
    ("invalid_except_stmt_indent",
      "a='except' expression ['as' NAME] ':' NEWLINE !INDENT"
        ++ " => last `expected an indented block after 'except' statement on line %d`"
        ++ " | a='except' ':' NEWLINE !INDENT"
        ++ " => last `expected an indented block after 'except' statement on line %d`"),
    ("invalid_except_star_stmt_indent",
      "a='except' '*' expression ['as' NAME] ':' NEWLINE !INDENT"
        ++ " => last `expected an indented block after 'except*' statement on line %d`"),
    ("invalid_match_stmt",
      "%match subject_expr NEWLINE => last `expected ':'`"
        ++ " | a=%match subject_expr ':' NEWLINE !INDENT"
        ++ " => last `expected an indented block after 'match' statement on line %d`"),
    ("invalid_case_block",
      "%case patterns guard? NEWLINE => last `expected ':'`"
        ++ " | a=%case patterns guard? ':' NEWLINE !INDENT"
        ++ " => last `expected an indented block after 'case' statement on line %d`"),
    ("invalid_as_pattern",
      "or_pattern 'as' a=%_ => here `cannot use '_' as a target`"
        ++ " | or_pattern 'as' !NAME a=expression => here `invalid pattern target`"),
    ("invalid_class_pattern",
      "name_or_attr '(' a=invalid_class_argument_pattern"
        ++ " => here `positional patterns follow keyword patterns`"),
    ("invalid_class_argument_pattern",
      "[positional_patterns ','] keyword_patterns ',' a=positional_patterns"),
    ("invalid_if_stmt",
      "'if' named_expression NEWLINE => last `expected ':'`"
        ++ " | a='if' named_expression ':' NEWLINE !INDENT"
        ++ " => last `expected an indented block after 'if' statement on line %d`"),
    ("invalid_elif_stmt",
      "'elif' named_expression NEWLINE => last `expected ':'`"
        ++ " | a='elif' named_expression ':' NEWLINE !INDENT"
        ++ " => last `expected an indented block after 'elif' statement on line %d`"),
    ("invalid_else_stmt",
      "a='else' ':' NEWLINE !INDENT"
        ++ " => last `expected an indented block after 'else' statement on line %d`"),
    ("invalid_while_stmt",
      "'while' named_expression NEWLINE => last `expected ':'`"
        ++ " | a='while' named_expression ':' NEWLINE !INDENT"
        ++ " => last `expected an indented block after 'while' statement on line %d`"),
    ("invalid_for_stmt",
      "['async'] 'for' star_targets 'in' star_expressions NEWLINE => last `expected ':'`"
        ++ " | ['async'] a='for' star_targets 'in' star_expressions ':' NEWLINE !INDENT"
        ++ " => last `expected an indented block after 'for' statement on line %d`"),
    ("invalid_def_raw",
      "['async'] a='def' NAME '(' [params] ')' ['->' expression] ':' NEWLINE !INDENT"
        ++ " => last `expected an indented block after function definition on line %d`"),
    ("invalid_class_def_raw",
      "'class' NAME ['(' [arguments] ')'] NEWLINE => last `expected ':'`"
        ++ " | a='class' NAME ['(' [arguments] ')'] ':' NEWLINE !INDENT"
        ++ " => last `expected an indented block after class definition on line %d`") ]

def ruleTexts : List (String × String) :=
  statementRules ++ parameterRules ++ patternRules ++ expressionRules ++ targetRules
    ++ expressionFaults ++ parameterFaults ++ statementFaults

def grammar : Grammar := (Grammar.ofTexts ruleTexts).getD #[]

def embeddedRule : Nat := 1

end MarkupLint.Script
