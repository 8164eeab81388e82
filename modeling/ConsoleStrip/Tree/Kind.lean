/-
The kinds of nodes of a syntax tree.

* `Role`: the grammatical place that a node fills;
* `Kind`: what a node is. The order of a node's children is given with each
  kind; a child that may be missing is then the absent node.
-/
import ConsoleStrip.Token.Punct

namespace ConsoleStrip

/-- The grammatical place that a node fills. A node that fills none of the
named places is `plain`: a list, a type annotation, a clause, a name. -/
inductive Role where
  | plain
  | statement
  | moduleDecl
  | expression
  | pattern
  | property
  | declarator
  | classMember
  | markupAttribute
  | markupChild
  | typeNode
deriving Repr, DecidableEq, Inhabited

/-- An operator: a sign or a word. -/
inductive Operator where
  | sign (p : Punct)
  | word (w : String)
deriving Repr, DecidableEq, Inhabited

/-- The spelling of an operator. -/
def Operator.text : Operator → String
  | sign p => p.text
  | word w => w

/-- The word that opens a variable declaration. -/
inductive Binding where
  | var
  | letWord
  | const
  | using
  | awaitUsing
deriving Repr, DecidableEq, Inhabited

/-- How a method is reached. -/
inductive MethodKind where
  | method
  | getter
  | setter
deriving Repr, DecidableEq, Inhabited

/-- The modifiers of a class member or of a parameter. -/
structure Modifiers where
  access : Option String := none
  isStatic : Bool := false
  isDeclare : Bool := false
  isAbstract : Bool := false
  isOverride : Bool := false
  isReadonly : Bool := false
  isOptional : Bool := false
  isDefinite : Bool := false
deriving Repr, DecidableEq, Inhabited

/-- A mark on a mapped type: absent, plain, `+` or `-`. -/
inductive Mark where
  | none
  | plain
  | plus
  | minus
deriving Repr, DecidableEq, Inhabited

/-- What a node is. -/
inductive Kind where
  /-- A list whose members can be dropped: statements and declarations. -/
  | items
  /-- Any other list. -/
  | list
  /-- A whole file: its items. The first line, if it starts with `#!`, is kept apart. -/
  | module (firstLine : Option String)
  -- names and literals
  | ident (name : String)
  | identName (name : String)
  | privateName (name : String)
  | str (raw : String)
  | num (raw : String)
  | bigint (raw : String)
  | bool (value : Bool)
  | null
  | regex (raw : String)
  -- expressions
  | this
  | superRef
  /-- `import`, with `.defer` or `.source`, as what is called. -/
  | importRef (phase : Option String)
  /-- Elements; a hole is absent. -/
  | array
  /-- Properties and spreads. -/
  | object
  /-- `...` and an expression. -/
  | spread
  | unary (op : Operator)
  | update (op : Punct) (before : Bool)
  /-- Left, right. -/
  | binary (op : Operator)
  /-- Target, value. -/
  | assign (op : Punct)
  /-- Object, name. -/
  | member
  /-- `super`, name. -/
  | superMember
  /-- A name in brackets. -/
  | computed
  /-- Test, consequent, alternative. -/
  | conditional
  /-- Callee, arguments, type arguments. -/
  | call
  /-- Callee, arguments, type arguments. -/
  | new
  | sequence
  /-- Pieces of text between expressions: expressions, pieces. -/
  | template
  | templatePiece (raw : String) (last : Bool)
  /-- Tag, type arguments, template. -/
  | taggedTemplate
  /-- Parameters, body, type parameters, return type. -/
  | arrow (isAsync : Bool)
  /-- Name, function. -/
  | functionExpr
  /-- Name, class. -/
  | classExpr
  | yieldExpr (delegate : Bool)
  | newTarget
  | importMeta
  | await
  | paren
  /-- What is reached through `?.`, or after one. -/
  | optionalChain (optional : Bool)
  /-- Callee, arguments, type arguments. -/
  | optionalCall
  | nonNull
  /-- Expression, type. -/
  | asExpr
  /-- Expression, type. -/
  | satisfies
  | asConst
  /-- Expression, type. -/
  | typeAssertion
  | constAssertion
  /-- Expression, type arguments. -/
  | instantiation
  -- properties
  | shorthand (name : String)
  /-- Name, value. -/
  | shorthandInit (name : String)
  /-- Name, value. -/
  | keyValue
  /-- Name, type annotation, body. -/
  | getter
  /-- Name, `this` parameter, parameter, body. -/
  | setter
  /-- Name, function. -/
  | method
  -- functions and classes
  /-- Parameters, decorators, body, type parameters, return type. -/
  | function (isAsync isGenerator : Bool)
  /-- Decorators, pattern. -/
  | param
  /-- Decorators, pattern. -/
  | paramProperty (m : Modifiers)
  | decorator
  /-- Decorators, members, super class, type parameters, type arguments of the
  super class, implemented types. -/
  | classBody (isAbstract : Bool)
  /-- Name, parameters, body. -/
  | constructor (m : Modifiers)
  /-- Name, function. -/
  | classMethod (kind : MethodKind) (m : Modifiers)
  /-- Name, value, type annotation, decorators. -/
  | classProperty (m : Modifiers)
  /-- Name, value, type annotation, decorators. -/
  | accessor (m : Modifiers)
  | emptyMember
  | staticBlock
  -- patterns
  /-- Type annotation. -/
  | binding (name : String) (optional : Bool)
  /-- Elements, type annotation. -/
  | arrayPattern (optional : Bool)
  /-- Properties, type annotation. -/
  | objectPattern (optional : Bool)
  /-- Pattern, type annotation. -/
  | rest
  /-- Pattern, value. -/
  | assignPattern
  | exprPattern
  /-- Name, pattern. -/
  | keyValuePattern
  /-- Name, value. -/
  | shorthandPattern
  -- statements
  | block
  | empty
  | debugger
  /-- Object, body. -/
  | withStmt
  | returnStmt
  /-- Label, body. -/
  | labeled
  | breakStmt
  | continueStmt
  /-- Test, consequent, alternative. -/
  | ifStmt
  /-- Discriminant, cases. -/
  | switchStmt
  /-- Test, statements. -/
  | switchCase
  | throwStmt
  /-- Block, handler, finalizer. -/
  | tryStmt
  /-- Parameter, body. -/
  | catchClause
  /-- Test, body. -/
  | whileStmt
  /-- Test, body. -/
  | doWhile
  /-- Initializer, test, update, body. -/
  | forStmt
  /-- Left, right, body. -/
  | forIn
  /-- Left, right, body. -/
  | forOf (isAwait : Bool)
  | exprStmt
  -- declarations
  /-- Declarators. -/
  | varDecl (binding : Binding) (isDeclare : Bool)
  /-- Pattern, initializer. -/
  | declarator (definite : Bool)
  /-- Name, function. -/
  | functionDecl (isDeclare : Bool)
  /-- Name, class. -/
  | classDecl (isDeclare : Bool)
  /-- Name, type parameters, extended types, body. -/
  | interface (isDeclare : Bool)
  | interfaceBody
  /-- Expression, type arguments. -/
  | heritage
  /-- Name, type parameters, type. -/
  | typeAlias (isDeclare : Bool)
  /-- Name, members. -/
  | enumDecl (isDeclare isConst : Bool)
  /-- Name, value. -/
  | enumMember
  /-- Name, body. -/
  | moduleBlock (isDeclare isGlobal : Bool)
  /-- Name, body. -/
  | nestedNamespace
  /-- Items. -/
  | namespaceBody
  -- imports and exports
  /-- Specifiers, source, attributes. -/
  | importDecl (typeOnly : Bool) (phase : Option String)
  /-- Local name, imported name. -/
  | importNamed (typeOnly : Bool)
  | importDefault
  | importNamespace
  | exportDecl
  /-- Specifiers, source, attributes. -/
  | exportNamed (typeOnly : Bool)
  /-- Name, exported name. -/
  | exportSpecifier (typeOnly : Bool)
  | exportNamespace
  | exportDefaultSpecifier
  | exportDefaultDecl
  | exportDefaultExpr
  /-- Source, attributes. -/
  | exportAll (typeOnly : Bool)
  /-- Name, module. -/
  | importEquals (isExport typeOnly : Bool)
  | externalModule
  | exportAssignment
  | namespaceExport
  -- markup
  /-- Opening tag, children, closing tag. -/
  | element
  /-- Name, attributes, type arguments. -/
  | openingTag (selfClosing : Bool)
  | closingTag
  /-- Opening tag, children, closing tag. -/
  | fragment
  | openingFragment
  | closingFragment
  /-- Name, value. -/
  | markupAttr
  | markupText (raw : String)
  | markupExpr
  | markupSpread
  | markupEmpty
  /-- Object, name. -/
  | markupMember
  /-- Namespace, name. -/
  | markupNamespaced
  -- types
  | typeAnn
  | typeParams
  /-- Name, constraint, default. -/
  | typeParam (isIn isOut isConst : Bool)
  | typeArgs
  | keywordType (name : String)
  | thisType
  /-- Parameters, type parameters, result. -/
  | functionType
  /-- Parameters, type parameters, result. -/
  | constructorType (isAbstract : Bool)
  /-- Name, type arguments. -/
  | typeRef
  /-- Left, right. -/
  | qualifiedName
  /-- Name, type arguments. -/
  | typeQuery
  | typeLiteral
  | arrayType
  | tupleType
  /-- Label, type. -/
  | tupleElement
  | optionalType
  | restType
  | unionType
  | intersectionType
  /-- Checked type, extended type, consequent, alternative. -/
  | conditionalType
  | inferType
  | parenType
  | typeOperator (op : String)
  /-- Object, index. -/
  | indexedAccess
  /-- Type parameter, name type, type. -/
  | mappedType (readonly optional : Mark)
  | literalType
  /-- Types, pieces. -/
  | templateType
  /-- Name, type annotation. -/
  | typePredicate (asserts : Bool)
  /-- Module, attributes, qualifier, type arguments. -/
  | importType
  -- members of types
  /-- Parameters, type annotation, type parameters. -/
  | callSignature
  /-- Parameters, type annotation, type parameters. -/
  | constructSignature
  /-- Name, type annotation. -/
  | propertySignature (readonly computed optional : Bool)
  /-- Name, type annotation. -/
  | getterSignature (computed : Bool)
  /-- Name, parameter. -/
  | setterSignature (computed : Bool)
  /-- Name, parameters, type annotation, type parameters. -/
  | methodSignature (computed optional : Bool)
  /-- Parameters, type annotation. -/
  | indexSignature (readonly isStatic : Bool)
deriving Repr, DecidableEq, Inhabited

end ConsoleStrip
