/-!
# Syntax trees of declaration modules

A parsed module is a tree of named nodes. Each node has a kind, the role it plays in its
parent (the grammar's field name, when it has one), its byte span in the source and its named
children in source order. Punctuation and keywords are not kept: the readers of the tree only
look at named nodes, their roles and their text. Comments are named nodes too, and sit in the
smallest node that has source on both sides of them. The one keyword kept is `const` where it
stands as a type: it can fill a field, such as the value of a type alias, but is not a named
child.
-/
namespace TypedJson.Syntax

inductive Kind where
  | program | comment | error | hashBangLine
  -- statements and declarations
  | exportStatement | exportClause | exportSpecifier | namespaceExport
  | importStatement | importClause | namespaceImport | namedImports | importSpecifier
  | importRequireClause | importAlias | importAttribute
  | typeAliasDeclaration | interfaceDeclaration | extendsTypeClause | interfaceBody
  | enumDeclaration | enumBody | enumAssignment
  | internalModule | module | ambientDeclaration | statementBlock
  | functionDeclaration | generatorFunctionDeclaration | functionSignature
  | classDeclaration | abstractClassDeclaration | classBody | classHeritage
  | extendsClause | implementsClause
  | methodDefinition | methodSignature | abstractMethodSignature | publicFieldDefinition
  | classStaticBlock | decorator | accessibilityModifier | overrideModifier
  | lexicalDeclaration | variableDeclaration | variableDeclarator
  | expressionStatement | emptyStatement | returnStatement | throwStatement | ifStatement
  | elseClause | whileStatement | doStatement | forStatement | forInStatement
  | breakStatement | continueStatement | labeledStatement | debuggerStatement
  | tryStatement | catchClause | finallyClause | switchStatement | switchBody | withStatement
  | switchCase | switchDefault | statementIdentifier
  -- types
  | typeIdentifier | nestedTypeIdentifier | nestedIdentifier | genericType | typeArguments
  | typeParameters | typeParameter | constraint | defaultType | predefinedType
  | objectType | propertySignature | callSignature | constructSignature | indexSignature
  | mappedTypeClause | colonType | omittingColonType | addingColonType
  | optingColonType | unionType | intersectionType | arrayType | tupleType
  | optionalType | restType | parenthesizedType | lookupType | literalType
  | templateLiteralType | templateType | typeQuery | indexTypeQuery | thisType
  | conditionalType | inferType | functionType | constructorType | readonlyType
  | typePredicate | predicateColonType | asserts | assertsColonType
  | existentialType | flowMaybeType | constKeyword
  -- parameters and patterns
  | formalParameters | requiredParameter | optionalParameter | restPattern
  | objectPattern | arrayPattern | pairPattern | assignmentPattern
  | objectAssignmentPattern | shorthandPropertyIdentifierPattern
  -- names and literals
  | identifier | propertyIdentifier | privatePropertyIdentifier | shorthandPropertyIdentifier
  | computedPropertyName | string | number | templateString | templateSubstitution
  | stringFragment | escapeSequence | regex | trueLit | falseLit | nullLit | undefinedLit | this | super
  -- expressions
  | object | pair | spreadElement | array | callExpression | arguments | memberExpression
  | subscriptExpression | newExpression | unaryExpression | binaryExpression
  | updateExpression | assignmentExpression | augmentedAssignmentExpression
  | ternaryExpression | parenthesizedExpression | arrowFunction | functionExpression
  | asExpression | satisfiesExpression | nonNullExpression | awaitExpression
  | sequenceExpression | instantiationExpression | typeAssertion | yieldExpression
  | classExpression | metaProperty | importExpression
deriving DecidableEq, Repr, Inhabited

inductive Role where
  | name | value | body | declaration | type | typeParameters | parameters | returnType
  | left | right | consequence | alternative | argument | function | object | property
  | index | module | source | pattern | aliasName | constraint | condition | operator
  | typeArguments | arguments | decorator | label | sign | indexType | key
deriving DecidableEq, Repr, Inhabited

structure Node where
  kind : Kind
  role : Option Role := none
  start : Nat
  stop : Nat
  children : List Node := []
deriving Repr, Inhabited

namespace Node

def field? (n : Node) (r : Role) : Option Node :=
  n.children.find? (·.role == some r)

def isNamed (n : Node) : Bool := n.kind != .constKeyword

def firstChild? (n : Node) : Option Node :=
  n.children.find? isNamed

def withRole (n : Node) (r : Role) : Node :=
  { n with role := some r }

def containsError : Node → Bool
  | ⟨k, _, _, _, cs⟩ => k == .error || containsErrorList cs
where
  containsErrorList : List Node → Bool
    | [] => false
    | c :: cs => containsError c || containsErrorList cs

end Node

structure Tree where
  root : Node
  hasError : Bool
deriving Repr, Inhabited

end TypedJson.Syntax
