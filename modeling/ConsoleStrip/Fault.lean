/-
What can be wrong with a source text.

* `Cause`: the reasons for which a text is refused, by meaning;
* `Cause.message`: the wording of each;
* `Fault`: a cause and where it was found.
-/
import ConsoleStrip.Text.Source
import ConsoleStrip.Text.Quoted

namespace ConsoleStrip

/-- The reasons for which a source text is refused. -/
inductive Cause where
  -- scanning
  | unexpectedChar (c : Char)
  | unterminatedString
  | unterminatedTemplate
  | unterminatedComment
  | unterminatedRegex
  | unknownRegexFlags
  | duplicateRegexFlag (c : Char)
  | identifierAfterNumber
  | binaryDigitExpected
  | octalDigitExpected
  | hexDigitExpected
  | digitExpected
  | exponentExpected
  | numericSeparatorMisplaced
  | legacyOctal
  | legacyDecimal
  | legacyOctalEscape
  | badEscape (expected : String)
  | invalidStringEscape
  | invalidUnicodeEscape
  | escapeInReservedWord (word : String)
  | invalidIdentifierChar
  | legacyCommentInModule
  | unicodeEscapeExpected
  | markupTextChar (c : Char)
  -- what stands where
  | expected (wanted got : String)
  | unexpectedToken (got wanted : String)
  | unexpectedEof
  | semicolonExpected
  | semicolonOrEndExpected
  | expressionExpected
  | identifierExpected
  | nameExpected
  | stringExpected
  | trailingComma
  -- names
  | reservedInStrict (word : String)
  | awaitAsIdentifier
  | evalOrArgumentsBound
  | reservedShorthand
  | argumentsInClassField
  | spaceAfterHash
  -- expressions
  | invalidTarget
  | cannotAssign
  | assignmentTargetNotReference
  | notAPattern
  | shorthandDefault
  | nullishMixedWithLogical
  | unaryBeforePower
  | emptyParentheses
  | spreadInParentheses
  | lineBreakBeforeArrow
  | arrowNotAllowed
  | newTargetOutsideFunction
  | constructorInOptionalChain
  | templateInOptionalChain
  | importArity
  | importMisplaced
  | superOptional
  | superMisplaced
  | invalidSuperCall
  | nonNullOf (word : String)
  | awaitStar
  | awaitInFunction
  | awaitInParameter
  | yieldInParameter
  | awaitInFor
  | asyncInForOf
  | lineBreakAfterThrow
  -- functions
  | restNotLast
  | restParameterNotLast
  | commaAfterRest
  | restWithDefault
  | restOptional
  | restInSetter
  | dotsWithoutIdentifier
  | optionalPattern
  | getterParameter
  | setterParameter
  | useStrictWithPatterns
  | optionalWithDefault
  | typeAfterDefault
  | parameterPropertyOutsideConstructor
  | parameterPropertyPattern
  | defaultInDeclaration
  | bodyInDeclaration
  -- statements
  | constWithoutInit
  | patternWithoutInit
  | initInForHead
  | manyInForHead
  | typeInForHead
  | patternInForIn
  | declarationListEmpty
  | multipleDefaults
  | declarationNotAllowed
  | duplicateLabel (name : String)
  | labelledFunction
  | labelledGenerator
  | returnOutsideFunction
  | breakOutside
  | breakToUnknownLabel
  | continueOutside
  | continueToUnknownLabel
  | withStatement
  | usingInFor
  | usingPattern
  | usingWithoutInit
  | importExportNotTopLevel
  | exportNeedsFrom (name : String)
  | exportedString
  | importedString (name : String)
  | importedTypeTwice
  | exportedTypeTwice
  | reservedImport
  | decoratorsTwice
  -- classes
  | className
  | duplicateConstructor
  | constructorProperty
  | constructorGenerator
  | constructorAsync
  | constructorAccessor
  | readonlyMethod
  | readonlyAccessor
  | privateConstructor
  | accessOfPrivateName
  | modifierOfPrivateName (modifier : String)
  | modifierRepeated (modifier : String)
  | modifierOrder (first second : String)
  | modifierConflict (first second : String)
  | constructorModifier (modifier : String)
  | constructorTypeParameters
  | constructorReturnType
  | abstractMisplaced
  | abstractInConcreteClass
  | abstractWithBody
  | abstractWithInit
  | declareMisplaced
  | declareInAmbient
  | overrideWithoutSuper
  | modifierNotAllowed
  | asyncModifier
  | oneSuperClass
  | extendsTwice
  | implementsTwice
  | extendsAfterImplements
  | heritageExpression
  | optionalInObject
  | computedSequence
  -- types
  | numericEnumMember
  | computedEnumMember
  | interfaceName
  | privateNameInType
  | typeParameterModifier (modifier : String)
  | varianceModifier (modifier : String)
  | constModifier (modifier : String)
  | indexParameters
  | optionalBeforeRequired
  -- markup
  | closingTag (name : String)
  | closingFragment
  | attributeValue
  | emptyAttribute
  -- resources
  | nesting
deriving Repr, Inhabited, BEq

namespace Cause

/-- The wording of a cause. -/
def message : Cause → String
  | unexpectedChar c => "Unexpected character " ++ quotedChar c
  | unterminatedString => "Unterminated string constant"
  | unterminatedTemplate => "Unterminated template"
  | unterminatedComment => "Unterminated block comment"
  | unterminatedRegex => "Unterminated regexp literal"
  | unknownRegexFlags => "Unknown regular expression flags."
  | duplicateRegexFlag c => "Duplicated regular expression flag '" ++ c.toString ++ "'."
  | identifierAfterNumber => "Identifier cannot follow number"
  | binaryDigitExpected => "Expected a binary digit"
  | octalDigitExpected => "Expected an octal digit"
  | hexDigitExpected => "Expected a hexadecimal digit"
  | digitExpected => "Expected a decimal digit"
  | exponentExpected => "Expected +, - or decimal digit after e"
  | numericSeparatorMisplaced => "A numeric separator is only allowed between two digits"
  | legacyOctal =>
    "Legacy octal literals are not available when targeting ECMAScript 5 and higher"
  | legacyDecimal => "Legacy decimal escape is not permitted in strict mode"
  | legacyOctalEscape => "Legacy octal escape is not permitted in strict mode"
  | badEscape wanted => "Bad character escape sequence, expected " ++ wanted
  | invalidStringEscape => "Invalid string escape"
  | invalidUnicodeEscape => "Invalid unicode escape"
  | escapeInReservedWord word => "Unexpected escape sequence in reserved word: " ++ word
  | invalidIdentifierChar => "Invalid character in identifier"
  | legacyCommentInModule => "Legacy comments cannot be used in module code"
  | unicodeEscapeExpected => "Expected unicode escape"
  | markupTextChar c =>
    "Unexpected token. Did you mean `\x7b'" ++ c.toString ++ "'\x7d` or `"
      ++ (if c == '>' then "&gt;" else "&rbrace;") ++ "`?"
  | expected wanted got => "Expected '" ++ wanted ++ "', got '" ++ got ++ "'"
  | unexpectedToken got wanted => "Unexpected token `" ++ got ++ "`. Expected " ++ wanted
  | unexpectedEof => "Unexpected eof"
  | semicolonExpected => "Expected a semicolon"
  | semicolonOrEndExpected => "Expected ';', '\x7d' or <eof>"
  | expressionExpected => "Expression expected"
  | identifierExpected => "Expected ident"
  | nameExpected => "Expected an identifier"
  | stringExpected => "String literal expected"
  | trailingComma => "Trailing comma is not allowed"
  | reservedInStrict word => "`" ++ word ++ "` cannot be used as an identifier in strict mode"
  | awaitAsIdentifier => "`await` cannot be used as an identifier in an async context"
  | evalOrArgumentsBound => "'eval' and 'arguments' cannot be used as a binding identifier in " ++
      "strict mode"
  | reservedShorthand => "Cannot use a reserved word as a shorthand property"
  | argumentsInClassField => "'arguments' is only allowed in functions and class methods"
  | spaceAfterHash => "Unexpected space between # and identifier"
  | cannotAssign => "Cannot assign to this"
  | invalidTarget => "Invalid assignment target"
  | assignmentTargetNotReference =>
    "The left-hand side of an assignment expression must be a variable or a property access."
  | notAPattern => "Not a pattern"
  | shorthandDefault => "assignment property is invalid syntax"
  | nullishMixedWithLogical =>
    "Nullish coalescing operator(??) requires parens when mixing with " ++
      "logical operators"
  | unaryBeforePower => "'**' cannot be applied to unary/await expression."
  | emptyParentheses => "Parenthesized expression cannot be empty"
  | spreadInParentheses => "Parenthesized expression cannot contain spread operator"
  | lineBreakBeforeArrow => "Unexpected line break between arrow head and arrow"
  | arrowNotAllowed => "An arrow function is not allowed here"
  | newTargetOutsideFunction => "'new.target' is only allowed in the body of a function " ++
      "declaration, function expression, or class."
  | constructorInOptionalChain => "Constructor in/after an optional chaining is not allowed."
  | templateInOptionalChain => "Tagged template literal is not allowed in optional chain."
  | importArity => "`import()` requires exactly one or two arguments"
  | importMisplaced => "Import is not allowed here"
  | superOptional => "Super call cannot be optional"
  | superMisplaced => "Invalid access to super"
  | invalidSuperCall => "Invalid `super()`"
  | nonNullOf word => "Typescript non-null assertion operator is not allowed with '" ++ word ++ "'"
  | awaitStar => "await* has been removed from the async functions proposal. Use Promise.all() " ++
      "instead."
  | awaitInFunction => "await isn't allowed in non-async function"
  | awaitInParameter => "`await` expressions cannot be used in a parameter initializer."
  | yieldInParameter => "'yield' cannot be used as a parameter within generator"
  | awaitInFor => "for await syntax is valid only for for-of statement"
  | asyncInForOf => "The left-hand side of a `for...of` statement may not be `async`"
  | lineBreakAfterThrow => "LineBreak cannot follow 'throw'"
  | restNotLast => "Rest element must be final element"
  | restParameterNotLast => "A rest parameter must be last in a parameter list"
  | commaAfterRest => "Trailing comma isn't permitted after a rest element"
  | restWithDefault => "A rest parameter cannot have an initializer"
  | restOptional => "A rest parameter cannot be optional"
  | restInSetter => "Rest pattern is not allowed in setter"
  | dotsWithoutIdentifier => "`...` must be followed by an identifier in declaration contexts"
  | optionalPattern => "A binding pattern parameter cannot be optional in an implementation " ++
      "signature."
  | getterParameter => "A `get` accessor cannot have parameters"
  | setterParameter => "A `set` accessor must have exactly one parameter"
  | useStrictWithPatterns => "Illegal 'use strict' directive in function with non-simple " ++
      "parameter list."
  | optionalWithDefault => "Parameter cannot have question mark and initializer"
  | typeAfterDefault => "Type annotations must come before default assignments"
  | parameterPropertyOutsideConstructor =>
    "A parameter property is only allowed in a constructor " ++
      "implementation"
  | parameterPropertyPattern => "Typescript parameter property must be an identifier or " ++
      "assignment pattern"
  | defaultInDeclaration =>
    "A parameter initializer is only allowed in a function or constructor " ++
      "implementation"
  | bodyInDeclaration => "An implementation cannot be declared in ambient contexts"
  | constWithoutInit => "'const' declarations must be initialized"
  | patternWithoutInit => "Destructuring bindings require initializers"
  | initInForHead => "Unexpected initializer in for in/of loop"
  | manyInForHead => "Expected one variable binding"
  | typeInForHead => "The left-hand side of a 'for...of' statement cannot use a type annotation"
  | patternInForIn => "The left-hand side of a 'for...in' statement cannot be a destructuring " ++
      "pattern"
  | declarationListEmpty => "Variable declaration list cannot be empty"
  | multipleDefaults => "A switch block cannot have multiple defaults"
  | declarationNotAllowed => "Declaration is not allowed"
  | duplicateLabel name => "Label " ++ name ++ " is already declared"
  | labelledFunction => "Function cannot be labelled in strict mode"
  | labelledGenerator => "Generator or async function cannot be labelled"
  | returnOutsideFunction => "Return statement is not allowed here"
  | breakOutside =>
    "A 'break' statement can only be used within an enclosing iteration or switch " ++
      "statement"
  | breakToUnknownLabel => "A 'break' statement can only jump to a label of an enclosing statement"
  | continueOutside =>
    "A 'continue' statement can only jump to a label of an enclosing iteration " ++
      "statement"
  | continueToUnknownLabel => "Jump target cannot cross function boundary"
  | withStatement => "The 'with' statement is not supported. All symbols in a 'with' block will " ++
      "have type 'any'."
  | usingInFor => "Using declaration is not allowed in for-in loop"
  | usingPattern => "Using declaration only allows identifiers"
  | usingWithoutInit => "Using declaration requires initializer"
  | importExportNotTopLevel => "'import', and 'export' cannot be used outside of module code"
  | exportNeedsFrom name => "`" ++ name ++ "` cannot be used without `from` clause"
  | exportedString => "A string literal cannot be used as an exported binding without `from`."
  | importedString name => "A string literal cannot be used as an imported binding.\n- Did you " ++
      "mean `import \x7b \"" ++ name ++ "\" as foo \x7d`?"
  | importedTypeTwice =>
    "The 'type' modifier cannot be used on a named import when 'import type' " ++
      "is used on its import statement."
  | exportedTypeTwice =>
    "The 'type' modifier cannot be used on a named export when 'export type' " ++
      "is used on its export statement."
  | reservedImport => "cannot import as reserved word"
  | decoratorsTwice =>
    "Decorators may not appear after 'export' or 'export default' if they also " ++
      "appear before 'export'."
  | className => "Invalid class name"
  | duplicateConstructor => "A class can only have one constructor"
  | constructorProperty => "Classes may not have a non-static field named 'constructor'"
  | constructorGenerator => "Constructor can't be a generator"
  | constructorAsync => "Constructor can't be an async function"
  | constructorAccessor => "Class constructor can't be an accessor"
  | readonlyMethod => "A method cannot be readonly"
  | readonlyAccessor => "A getter or a setter cannot be readonly"
  | privateConstructor => "Classes can't have a private field named '#constructor'."
  | accessOfPrivateName => "An accessibility modifier cannot be used with a private identifier."
  | modifierOfPrivateName modifier =>
    "'" ++ modifier ++ "' modifier cannot be used with a private identifier"
  | modifierRepeated modifier => "'" ++ modifier ++ "' modifier already seen."
  | modifierOrder first second =>
    "'" ++ first ++ "' modifier must precede '" ++ second ++ "' modifier."
  | modifierConflict first second =>
    "'" ++ first ++ "' modifier cannot be used with '" ++ second ++ "' modifier."
  | constructorModifier modifier =>
    "'" ++ modifier ++ "' modifier cannot appear on a constructor declaration"
  | constructorTypeParameters => "Type parameters cannot appear on a constructor declaration"
  | constructorReturnType => "Type annotation cannot appear on a constructor declaration"
  | abstractMisplaced => "`abstract` modifier can only appear on a class or method declaration."
  | abstractInConcreteClass => "Abstract methods can only appear within an abstract class."
  | abstractWithBody => "Abstract method cannot have an implementation."
  | abstractWithInit => "Abstract property cannot have an initializer."
  | declareInAmbient => "`declare` modifier not allowed for code already in an ambient context"
  | declareMisplaced => "`declare` modifier cannot appear on class elements of this kind"
  | overrideWithoutSuper =>
    "This member cannot have an 'override' modifier because its containing " ++
      "class does not extend another class."
  | modifierNotAllowed => "Modifiers cannot appear here"
  | asyncModifier => "`async` modifier cannot be used here"
  | oneSuperClass => "Classes can only extend a single class"
  | extendsTwice => "`extends` clause already seen."
  | implementsTwice => "`implements` clause already seen."
  | extendsAfterImplements => "`extends` clause must precede `implements` clause."
  | heritageExpression => "An interface can only extend an identifier/qualified-name with " ++
      "optional type arguments."
  | optionalInObject => "An object member cannot be declared optional"
  | computedSequence =>
    "A comma expression is not allowed in a computed property name"
  | numericEnumMember => "An enum member cannot have a numeric name"
  | computedEnumMember => "Computed property names are not allowed in enums"
  | interfaceName => "interface name is invalid"
  | privateNameInType => "private names are not allowed in interface"
  | typeParameterModifier modifier =>
    "'" ++ modifier ++ "' modifier cannot appear on a type parameter"
  | varianceModifier modifier => "'" ++ modifier ++ "' modifier can only appear on a type " ++
      "parameter of a class, interface or type alias"
  | constModifier modifier =>
    "'" ++ modifier ++ "' modifier can only appear on a type parameter " ++
      "of a function, method or class"
  | indexParameters => "An index signature must have exactly one parameter"
  | optionalBeforeRequired => "A required element cannot follow an optional element."
  | closingTag name => "Expected corresponding JSX closing tag for <" ++ name ++ ">"
  | closingFragment => "Expected corresponding closing tag for JSX fragment"
  | attributeValue => "JSX value should be either an expression or a quoted JSX text"
  | emptyAttribute => "JSX attributes must only be assigned a non-empty expression"
  | nesting => "Source is nested too deeply"

end Cause

/-- A cause together with the place where it was found. -/
structure Fault where
  span : Span
  cause : Cause
deriving Repr, Inhabited, BEq

end ConsoleStrip
