/-
Printed trees.

* `Emit.layout`: how a node of a kind is printed, given its parts;
* `Emit.inPlace`: what the place that a node fills adds: comments that trail it,
  the end of its line;
* `Node.printed`: a tree with how each of its nodes is printed;
* `Node.print`: the text of a tree and the mappings of its source.
-/
import ConsoleStrip.Print.Markup
import ConsoleStrip.Print.Module
import ConsoleStrip.Print.Statement
import ConsoleStrip.Print.Type

namespace ConsoleStrip

namespace Emit

/-- A whole file. -/
def module (s : Span) (firstLine : Option String) (ps : Parts) : Emit Unit := do
  leadingComments s.lo
  if (ps.inner 0).isEmpty then mark s.lo
  if let some line := firstLine then
    write "#!"
    write line
    newline
  for item in ps.inner 0 do
    item.emit .whole
    trailingComments item.node.hi
  trailingComments s.hi

/-- How an expression is printed. -/
def exprOf (s : Span) (ps : Parts) (m : Manner) : Kind → Emit Unit
  | .ident name | .identName name => atom s name
  | .privateName name => privateName s name
  | .str raw | .num raw | .bigint raw | .regex raw => atom s raw
  | .bool b => atom s (if b then "true" else "false")
  | .null => atom s "null"
  | .this => keyword s "this"
  | .superRef => keyword s "super"
  | .importRef none => keyword s "import"
  | .importRef (some phase) => atom s ("import." ++ phase)
  | .newTarget => atom s "new.target"
  | .importMeta => atom s "import.meta"
  | .array => array s ps
  | .object => object s ps
  | .spread => spread s ps
  | .unary op => unary s op ps
  | .update op before => update s op before ps
  | .binary op => infixed s op.text ps
  | .assign op => infixed s op.text ps
  | .member | .superMember => member s ps
  | .computed => computed s ps
  | .conditional => conditional s ps
  | .call => call s ps
  | .new => new s ps
  | .sequence => sequence s ps
  | .template => template s ps
  | .templatePiece raw _ => templatePiece s raw
  | .taggedTemplate => taggedTemplate s ps
  | .arrow isAsync => arrow s isAsync ps
  | .functionExpr => namedFunction s false ps
  | .classExpr => namedClass s false ps m
  | .yieldExpr delegate => yieldExpr s delegate ps
  | .await => await s ps
  | .paren => paren s ps
  | .optionalChain isOptional => optionalChain s isOptional ps
  | .nonNull => withAfter s ps (punct .bang)
  | .asExpr => typed s "as" ps
  | .satisfies => typed s "satisfies" ps
  | .asConst => withAfter s ps (write " as const")
  | .typeAssertion => typeAssertion s ps
  | .constAssertion => constAssertion s ps
  | .instantiation => withAfter s ps (ps.emit 1)
  | .shorthand name => atom s name
  | .shorthandInit _ => shorthandInit s ps
  | .keyValue => keyValue s ps
  | .getter => getter s ps
  | .setter => setter s ps
  | .method => method s ps
  | _ => pure ()

/-- How a part of a function or class, or a pattern, is printed. -/
def functionPartOf (s : Span) (ps : Parts) : Kind → Emit Unit
  | .param => param s ps
  | .paramProperty m => paramProperty s m ps
  | .decorator => decorator s ps
  | .constructor m => constructor s m ps
  | .classMethod kind m => classMethod s kind m ps
  | .classProperty m => classProperty s m false ps
  | .accessor m => classProperty s m true ps
  | .emptyMember => atom s ";"
  | .staticBlock => staticBlock s ps
  | .binding name isOptional => binding s name isOptional ps
  | .arrayPattern isOptional => arrayPattern s isOptional ps
  | .objectPattern isOptional => objectPattern s isOptional ps
  | .rest => rest s ps
  | .assignPattern => assignPattern s ps
  | .exprPattern => ps.emit 0
  | .keyValuePattern => keyValue s ps
  | .shorthandPattern => shorthandPattern s ps
  | _ => pure ()

/-- How a statement or a declaration is printed. -/
def statementOf (s : Span) (ps : Parts) (m : Manner) : Kind → Emit Unit
  | .block => block s (m == .body) ps
  | .empty => do
    leadingComments s.lo
    punct .semi
  | .debugger => do
    keyword s "debugger"
    punct .semi
  | .withStmt => withStmt s ps
  | .returnStmt => wordWithArg s "return" ps
  | .labeled => labeled s ps
  | .breakStmt => jump s "break" ps
  | .continueStmt => jump s "continue" ps
  | .ifStmt => ifStmt s ps
  | .switchStmt => switchStmt s ps
  | .switchCase => switchCase s ps
  | .throwStmt => wordWithArg s "throw" ps
  | .tryStmt => tryStmt s ps
  | .catchClause => catchClause s ps
  | .whileStmt => whileStmt s ps
  | .doWhile => doWhile s ps
  | .forStmt => forStmt s ps
  | .forIn => forIn s ps
  | .forOf isAwait => forOf s isAwait ps
  | .exprStmt => exprStmt s ps
  | .varDecl b isDeclare => varDecl s b isDeclare ps
  | .declarator definite => declarator s definite ps
  | .functionDecl isDeclare => namedFunction s isDeclare ps
  | .classDecl isDeclare => namedClass s isDeclare ps m
  | .interface isDeclare => interface s isDeclare ps
  | .interfaceBody => braced s .members ps
  | .heritage => inOrder s ps
  | .typeAlias isDeclare => typeAlias s isDeclare ps
  | .enumDecl isDeclare isConst => enumDecl s isDeclare isConst ps
  | .enumMember => enumMember s ps
  | .moduleBlock isDeclare isGlobal => moduleBlock s isDeclare isGlobal ps
  | .nestedNamespace => nestedNamespace s ps
  | .namespaceBody => namespaceBody s ps
  | .importDecl typeOnly phase => importDecl s typeOnly phase ps
  | .importNamed typeOnly => renamed s typeOnly ps 1 0
  | .importDefault => ps.emit 0
  | .importNamespace => allAs s ps
  | .exportDecl => exportDecl s ps
  | .exportNamed typeOnly => exportNamed s typeOnly ps
  | .exportSpecifier typeOnly =>
    if ps.has 1 then renamed s typeOnly ps 0 1 else renamed s typeOnly ps 1 0
  | .exportNamespace => allAs s ps
  | .exportDefaultSpecifier => ps.emit 0
  | .exportDefaultDecl => exportDefaultDecl s ps
  | .exportDefaultExpr => exportDefaultExpr s ps
  | .exportAll typeOnly => exportAll s typeOnly ps
  | .importEquals isExport typeOnly => importEquals s isExport typeOnly ps
  | .externalModule => externalModule s ps
  | .exportAssignment => exportAssignment s ps
  | .namespaceExport => exportAssignment s ps
  | _ => pure ()

/-- How a piece of markup is printed. -/
def markupOf (s : Span) (ps : Parts) : Kind → Emit Unit
  | .element | .fragment => element s ps
  | .openingTag selfClosing => openingTag s selfClosing ps
  | .closingTag => closingTag s ps
  | .openingFragment => write "<>"
  | .closingFragment => write "</>"
  | .markupAttr => markupAttr s ps
  | .markupText raw => keyword s raw
  | .markupExpr => markupExpr s ps
  | .markupSpread => markupSpread s ps
  | .markupMember => markupNames s .dot ps
  | .markupNamespaced => markupNames s .colon ps
  | _ => pure ()

/-- How a type or a member of a type is printed. -/
def typeOf (s : Span) (ps : Parts) (m : Manner) : Kind → Emit Unit
  | .typeAnn => around s "" "" ps
  | .typeParams | .typeArgs => angled s ps
  | .typeParam isIn isOut isConst =>
    if m == .undecorated then mappedParam ps else typeParam s isIn isOut isConst ps
  | .keywordType name => keyword s name
  | .thisType => keyword s "this"
  | .functionType => functionType s ps
  | .constructorType isAbstract => constructorType s isAbstract ps
  | .typeRef => inOrder s ps
  | .qualifiedName => joinedBy s .dot ps
  | .typeQuery => wordAndType s "typeof" ps
  | .typeLiteral => braced s .statements ps
  | .arrayType => around s "" "[]" ps
  | .tupleType => tupleType s ps
  | .tupleElement => tupleElement s ps
  | .optionalType => around s "" "?" ps
  | .restType => around s "..." "" ps
  | .unionType => operands s .pipe ps
  | .intersectionType => operands s .amp ps
  | .conditionalType => conditionalType s ps
  | .inferType => wordAndType s "infer" ps
  | .parenType => around s "(" ")" ps
  | .typeOperator op => wordAndType s op ps
  | .indexedAccess => indexedAccess s ps
  | .mappedType readonly optional => mappedType s readonly optional ps
  | .literalType => around s "" "" ps
  | .templateType => template s ps
  | .typePredicate asserts => typePredicate s asserts ps
  | .importType => importType s ps
  | .callSignature => callSignature s ps
  | .constructSignature => constructSignature s ps
  | .propertySignature readonly computed optional =>
    propertySignature s readonly computed optional ps
  | .getterSignature computed => getterSignature s computed ps
  | .setterSignature computed => setterSignature s computed ps
  | .methodSignature computed optional => methodSignature s computed optional ps
  | .indexSignature readonly isStatic => indexSignature s readonly isStatic ps
  | _ => pure ()

/-- How a node is printed, given its parts. Each kind is known to one of the
functions above. -/
def layout (k : Kind) (s : Span) (ps : Parts) (m : Manner) : Emit Unit := do
  match k with
  | .module firstLine => module s firstLine ps
  | _ => pure ()
  exprOf s ps m k
  functionPartOf s ps k
  statementOf s ps m k
  markupOf s ps k
  typeOf s ps m k

/-- What the place that a node fills adds to what is printed of it. -/
def inPlace (r : Role) (k : Kind) (s : Span) (core : Emit Unit) : Emit Unit :=
  match r with
  | .expression | .pattern => do
    core
    trailingComments s.hi
  | .statement => do
    core
    match k with
    | .block => return
    | .varDecl .. => punct .semi
    | _ => pure ()
    trailingComments s.hi
    newline
  | .moduleDecl => do
    core
    trailingComments s.hi
    newline
  | .markupAttribute =>
    if k == .spread then do
      punct .lbrace
      core
      punct .rbrace
    else core
  | _ => core

end Emit

namespace Node

mutual

/-- A tree with how each of its nodes is printed. -/
def printed : Node → Part
  | absent => ⟨absent, fun _ => pure (), []⟩
  | node r k s ks =>
    let ps := printedAll ks
    ⟨node r k s ks, fun m => Emit.inPlace r k s (Emit.layout k s ps m), ps⟩

/-- Trees with how each of their nodes is printed. -/
def printedAll : List Node → List Part
  | [] => []
  | n :: ns => printed n :: printedAll ns

end

/-- What is printed of a tree with its comments. -/
def print (n : Node) (comments : Attached) : Output :=
  ((n.printed.emit .whole).run { comments }).2

end Node

end ConsoleStrip
