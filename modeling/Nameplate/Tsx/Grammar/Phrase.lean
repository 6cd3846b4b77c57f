import Nameplate.Tsx.Tree

/-!
# Phrases

The phrases of the grammar, each of which `Grammar.rules` says how to write. The order of the
constructors matters where a text can be read in two ways and nothing else decides: the phrase that
stands first wins.
-/

namespace Nameplate.Tsx

/-- The phrases of the grammar. -/
inductive Phrase where
  | program
  | exportStatement | namespaceExport | exportClause | exportSpecifier | moduleExportName
  | declaration | importWord | importStatement | importClause | fromClause | namespaceImport
  | namedImports | importSpecifier | importAttribute | statement | expressionStatement
  | variableDeclaration | lexicalDeclaration | variableDeclarator | statementBlock | elseClause
  | ifStatement | switchStatement | forStatement | forInStatement | forHeader | whileStatement
  | doStatement | tryStatement | withStatement | breakStatement | continueStatement
  | debuggerStatement | returnStatement | throwStatement | emptyStatement | labeledStatement
  | switchBody | switchCase | switchDefault | catchClause | finallyClause
  | parenthesizedExpression | expression | primaryExpression | yieldExpression | objectLiteral
  | objectPattern | assignmentPattern | objectAssignmentPattern | arrayLiteral | arrayPattern
  | jsxElement | jsxExpression | jsxOpeningElement | nestedIdentifier | jsxNamespaceName
  | jsxClosingElement | jsxSelfClosingElement | jsxAttribute | jsxString | classExpression
  | classDeclaration | classHeritage | functionExpression | functionDeclaration
  | generatorFunction | generatorFunctionDeclaration | arrowFunction | signature
  | formalParameter | optionalChain | callExpression | newExpression | awaitExpression
  | memberExpression | subscriptExpression | assignmentExpression | updateTarget
  | updateAssignment | initializer | destructuringPattern | spreadElement | ternaryExpression
  | binaryExpression | unaryExpression | updateExpression | sequenceExpression | stringLiteral
  | templateString | templateSubstitution | regex | metaProperty | argumentList | decorator
  | decoratorMember | decoratorCall | classBody | formalParameters | classStaticBlock
  | bindingPattern | restPattern | methodDefinition | pair | pairPattern | propertyName
  | computedPropertyName | publicFieldDefinition | importIdentifier | nonNullExpression
  | methodSignature | abstractMethodSignature | functionSignature | decoratorParenthesized
  | asExpression | satisfiesExpression | instantiationExpression | importRequireClause
  | extendsClause | extendedClass | implementsClause | ambientDeclaration
  | abstractClassDeclaration | moduleDeclaration | internalModule | moduleParts | importAlias
  | nestedTypeIdentifier | interfaceDeclaration | extendsTypeClause | enumDeclaration | enumBody
  | enumAssignment | typeAliasDeclaration | accessibilityModifier | overrideModifier
  | requiredParameter | optionalParameter | parameterName | omittingTypeSuffix
  | addingTypeSuffix | optingTypeSuffix | typeSuffix | importedMember | importedCall
  | asserts | assertsSuffix | anyType | tupleParameter | optionalTupleParameter
  | optionalType | restType | tupleMember | constructorType | primaryType | templateType
  | templateLiteralType | inferType | conditionalType | genericType | typePredicate
  | typePredicateSuffix | queriedMember | queriedElement | queriedCall | queriedInstance
  | typeQuery | indexTypeQuery | lookupType | mappedTypeClause | literalType | signedNumber
  | existentialType | flowMaybeType | parenthesizedType | predefinedType | typeArguments
  | objectType | callSignature | propertySignature | typeParameters | typeParameter | defaultType
  | constraint | constructSignature | indexSignature | arrayType | tupleType | readonlyType
  | unionType | intersectionType | functionType
deriving DecidableEq

namespace Phrase

/-- What a phrase is in the tree; `none` if the parts of the phrase stand in its place. -/
def kind? : Phrase → Option Kind
  | program => some .program
  | moduleExportName | declaration | fromClause | statement | forHeader | expression
  | primaryExpression | jsxString | signature | formalParameter | updateTarget | initializer
  | destructuringPattern | bindingPattern | propertyName | importIdentifier | extendedClass
  | moduleParts | parameterName | importedMember | importedCall | anyType | tupleMember
  | primaryType | queriedMember | queriedElement | queriedCall | queriedInstance
  | signedNumber => none
  | stringLiteral => some .string
  | templateString => some .template
  | templateSubstitution => some .substitution
  | parenthesizedExpression => some .parenthesized
  | arrowFunction => some .arrowFunction
  | functionExpression => some .functionExpression
  | callExpression => some .call
  | argumentList => some .arguments
  | memberExpression => some .member
  | subscriptExpression => some .subscript
  | nonNullExpression => some .nonNull
  | assignmentExpression => some .assignment
  | functionDeclaration => some .functionDeclaration
  | lexicalDeclaration => some .lexicalDeclaration
  | variableDeclarator => some .declarator
  | exportStatement => some .exportStatement
  | expressionStatement => some .expressionStatement
  | namespaceExport => some (.other "namespace_export")
  | exportClause => some (.other "export_clause")
  | exportSpecifier => some (.other "export_specifier")
  | importWord => some (.other "import")
  | importStatement => some (.other "import_statement")
  | importClause => some (.other "import_clause")
  | namespaceImport => some (.other "namespace_import")
  | namedImports => some (.other "named_imports")
  | importSpecifier => some (.other "import_specifier")
  | importAttribute => some (.other "import_attribute")
  | variableDeclaration => some (.other "variable_declaration")
  | statementBlock => some (.other "statement_block")
  | elseClause => some (.other "else_clause")
  | ifStatement => some (.other "if_statement")
  | switchStatement => some (.other "switch_statement")
  | forStatement => some (.other "for_statement")
  | forInStatement => some (.other "for_in_statement")
  | whileStatement => some (.other "while_statement")
  | doStatement => some (.other "do_statement")
  | tryStatement => some (.other "try_statement")
  | withStatement => some (.other "with_statement")
  | breakStatement => some (.other "break_statement")
  | continueStatement => some (.other "continue_statement")
  | debuggerStatement => some (.other "debugger_statement")
  | returnStatement => some (.other "return_statement")
  | throwStatement => some (.other "throw_statement")
  | emptyStatement => some (.other "empty_statement")
  | labeledStatement => some (.other "labeled_statement")
  | switchBody => some (.other "switch_body")
  | switchCase => some (.other "switch_case")
  | switchDefault => some (.other "switch_default")
  | catchClause => some (.other "catch_clause")
  | finallyClause => some (.other "finally_clause")
  | yieldExpression => some (.other "yield_expression")
  | objectLiteral => some (.other "object")
  | objectPattern => some (.other "object_pattern")
  | assignmentPattern => some (.other "assignment_pattern")
  | objectAssignmentPattern => some (.other "object_assignment_pattern")
  | arrayLiteral => some (.other "array")
  | arrayPattern => some (.other "array_pattern")
  | jsxElement => some (.other "jsx_element")
  | jsxExpression => some (.other "jsx_expression")
  | jsxOpeningElement => some (.other "jsx_opening_element")
  | nestedIdentifier => some (.other "nested_identifier")
  | jsxNamespaceName => some (.other "jsx_namespace_name")
  | jsxClosingElement => some (.other "jsx_closing_element")
  | jsxSelfClosingElement => some (.other "jsx_self_closing_element")
  | jsxAttribute => some (.other "jsx_attribute")
  | classExpression => some (.other "class")
  | classDeclaration => some (.other "class_declaration")
  | classHeritage => some (.other "class_heritage")
  | generatorFunction => some (.other "generator_function")
  | generatorFunctionDeclaration => some (.other "generator_function_declaration")
  | optionalChain => some (.other "optional_chain")
  | newExpression => some (.other "new_expression")
  | awaitExpression => some (.other "await_expression")
  | updateAssignment => some (.other "augmented_assignment_expression")
  | spreadElement => some (.other "spread_element")
  | ternaryExpression => some (.other "ternary_expression")
  | binaryExpression => some (.other "binary_expression")
  | unaryExpression => some (.other "unary_expression")
  | updateExpression => some (.other "update_expression")
  | sequenceExpression => some (.other "sequence_expression")
  | regex => some (.other "regex")
  | metaProperty => some (.other "meta_property")
  | decorator => some (.other "decorator")
  | decoratorMember => some (.other "member_expression")
  | decoratorCall => some (.other "call_expression")
  | classBody => some (.other "class_body")
  | formalParameters => some (.other "formal_parameters")
  | classStaticBlock => some (.other "class_static_block")
  | restPattern => some (.other "rest_pattern")
  | methodDefinition => some (.other "method_definition")
  | pair => some (.other "pair")
  | pairPattern => some (.other "pair_pattern")
  | computedPropertyName => some (.other "computed_property_name")
  | publicFieldDefinition => some (.other "public_field_definition")
  | methodSignature => some (.other "method_signature")
  | abstractMethodSignature => some (.other "abstract_method_signature")
  | functionSignature => some (.other "function_signature")
  | decoratorParenthesized => some (.other "parenthesized_expression")
  | asExpression => some (.other "as_expression")
  | satisfiesExpression => some (.other "satisfies_expression")
  | instantiationExpression => some (.other "instantiation_expression")
  | importRequireClause => some (.other "import_require_clause")
  | extendsClause => some (.other "extends_clause")
  | implementsClause => some (.other "implements_clause")
  | ambientDeclaration => some (.other "ambient_declaration")
  | abstractClassDeclaration => some (.other "abstract_class_declaration")
  | moduleDeclaration => some (.other "module")
  | internalModule => some (.other "internal_module")
  | importAlias => some (.other "import_alias")
  | nestedTypeIdentifier => some (.other "nested_type_identifier")
  | interfaceDeclaration => some (.other "interface_declaration")
  | extendsTypeClause => some (.other "extends_type_clause")
  | enumDeclaration => some (.other "enum_declaration")
  | enumBody => some (.other "enum_body")
  | enumAssignment => some (.other "enum_assignment")
  | typeAliasDeclaration => some (.other "type_alias_declaration")
  | accessibilityModifier => some (.other "accessibility_modifier")
  | overrideModifier => some (.other "override_modifier")
  | requiredParameter => some (.other "required_parameter")
  | optionalParameter => some (.other "optional_parameter")
  | omittingTypeSuffix => some (.other "omitting_type_annotation")
  | addingTypeSuffix => some (.other "adding_type_annotation")
  | optingTypeSuffix => some (.other "opting_type_annotation")
  | typeSuffix => some (.other "type_annotation")
  | asserts => some (.other "asserts")
  | assertsSuffix => some (.other "asserts_annotation")
  | tupleParameter => some (.other "required_parameter")
  | optionalTupleParameter => some (.other "optional_parameter")
  | optionalType => some (.other "optional_type")
  | restType => some (.other "rest_type")
  | constructorType => some (.other "constructor_type")
  | templateType => some (.other "template_type")
  | templateLiteralType => some (.other "template_literal_type")
  | inferType => some (.other "infer_type")
  | conditionalType => some (.other "conditional_type")
  | genericType => some (.other "generic_type")
  | typePredicate => some (.other "type_predicate")
  | typePredicateSuffix => some (.other "type_predicate_annotation")
  | typeQuery => some (.other "type_query")
  | indexTypeQuery => some (.other "index_type_query")
  | lookupType => some (.other "lookup_type")
  | mappedTypeClause => some (.other "mapped_type_clause")
  | literalType => some (.other "literal_type")
  | existentialType => some (.other "existential_type")
  | flowMaybeType => some (.other "flow_maybe_type")
  | parenthesizedType => some (.other "parenthesized_type")
  | predefinedType => some (.other "predefined_type")
  | typeArguments => some (.other "type_arguments")
  | objectType => some (.other "object_type")
  | callSignature => some (.other "call_signature")
  | propertySignature => some (.other "property_signature")
  | typeParameters => some (.other "type_parameters")
  | typeParameter => some (.other "type_parameter")
  | defaultType => some (.other "default_type")
  | constraint => some (.other "constraint")
  | constructSignature => some (.other "construct_signature")
  | indexSignature => some (.other "index_signature")
  | arrayType => some (.other "array_type")
  | tupleType => some (.other "tuple_type")
  | readonlyType => some (.other "readonly_type")
  | unionType => some (.other "union_type")
  | intersectionType => some (.other "intersection_type")
  | functionType => some (.other "function_type")

end Phrase

end Nameplate.Tsx
