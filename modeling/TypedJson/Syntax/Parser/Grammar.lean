import TypedJson.Syntax.Parser.Recovery
/-!
# The grammar of declaration modules

Recursive descent over the tokens, building the named nodes of the TypeScript grammar: types
and object type members in full, declarations (type aliases, interfaces, enums, namespaces,
modules, classes, functions, variables, imports and exports), and the statements and
expressions that function bodies and initializers hold.

Every function takes a step budget first and fails when it is spent. A statement ends at a
semicolon, or where the scanner allows a statement to end without one; when neither is there
but the next token can start a statement, the semicolon counts as missing and the parse goes on.
A statement or a member of an object type that cannot be parsed is recovered by the cheapest
way through it (see `Parse.recover`), of which a missing semicolon is one.
-/
namespace TypedJson.Syntax

open Parse

namespace Token

def startsType (t : Token) : Bool :=
  match t.kind with
  | .word | .string | .number => true
  | .punct => ["(", "[", openBrace, "<", "-", "+", "|", "&", "*", "?", backtickText].contains t.text
  | _ => false

def closesType (t : Token) : Bool :=
  t.isEof || (t.kind == .punct && [";", closeBrace, ",", ")", "]", ">"].contains t.text)

def followsType (t : Token) : Bool :=
  t.closesType || t.endsType ||
    (t.kind == .punct && ["|", "&", "[", "=", "?", ":", "=>", ".", openBrace].contains t.text) ||
    (t.kind == .word && ["extends", "is", "as", "satisfies"].contains t.text)

def startsPropertyName (t : Token) : Bool :=
  t.kind == .word || t.kind == .string || t.kind == .number || t.kind == .privateName ||
    t.isPunct "["

def startsPattern (t : Token) : Bool :=
  t.isName || t.isPunct openBrace || t.isPunct "[" || t.isPunct "..."

end Token

def assignmentOps : List String :=
  ["=", "+=", "-=", "*=", "/=", "%=", "**=", "&=", "|=", "^=", "&&=", "||=", "??="]

def memberModifiers : List String :=
  ["public", "private", "protected", "static", "override", "readonly", "abstract", "declare",
   "async", "accessor"]

def declarationWords : List String :=
  ["type", "interface", "enum", "namespace", "module", "abstract", "class", "function", "async",
   "const", "let", "var", "declare", "global", "import"]

def gluedOperator : List Token → String × Nat
  | t :: rest =>
    let touching (a b : Token) := a.stop == b.start
    if t.isPunct ">" || t.isPunct "<" then
      match rest with
      | u :: v :: w :: _ =>
        if touching t u && u.isPunct t.text then
          if touching u v && v.isPunct t.text && t.text == ">" then
            if touching v w && w.isPunct "=" then (">>>=", 4) else (">>>", 3)
          else if touching u v && v.isPunct "=" then (t.text ++ t.text ++ "=", 3)
          else (t.text ++ t.text, 2)
        else if touching t u && u.isPunct "=" then (t.text ++ "=", 2)
        else (t.text, 1)
      | u :: v :: _ =>
        if touching t u && u.isPunct t.text then
          if touching u v && v.isPunct "=" then (t.text ++ t.text ++ "=", 3)
          else (t.text ++ t.text, 2)
        else if touching t u && u.isPunct "=" then (t.text ++ "=", 2)
        else (t.text, 1)
      | [u] =>
        if touching t u && u.isPunct t.text then (t.text ++ t.text, 2)
        else if touching t u && u.isPunct "=" then (t.text ++ "=", 2)
        else (t.text, 1)
      | [] => (t.text, 1)
    else (t.text, 1)
  | [] => ("", 0)

def binaryOperator (ts : List Token) : Option (String × Nat × Nat) :=
  match ts with
  | t :: _ =>
    let (op, n) := gluedOperator ts
    let prec? : Option Nat :=
      if t.kind == .word then
        if t.text == "instanceof" || t.text == "in" then some 8 else none
      else if t.kind != .punct then none
      else if op == "??" then some 1
      else if op == "||" then some 2
      else if op == "&&" then some 3
      else if op == "|" then some 4
      else if op == "^" then some 5
      else if op == "&" then some 6
      else if ["==", "!=", "===", "!=="].contains op then some 7
      else if ["<", ">", "<=", ">="].contains op then some 8
      else if ["<<", ">>", ">>>"].contains op then some 9
      else if op == "+" || op == "-" then some 10
      else if op == "*" || op == "/" || op == "%" then some 11
      else if op == "**" then some 12
      else none
    prec?.map fun p => (op, p, n)
  | [] => none

def assignmentOperator (ts : List Token) : Option (String × Nat) :=
  match ts with
  | t :: _ =>
    if t.kind == .punct && assignmentOps.contains t.text then some (t.text, 1)
    else
      let (op, n) := gluedOperator ts
      if op == ">>=" || op == ">>>=" || op == "<<=" then some (op, n) else none
  | [] => none

def typePrefixWords : List String := ["keyof", "infer", "readonly"]

def takesNoPrefix (k : Kind) : Bool :=
  k == .functionType || k == .constructorType || k == .readonlyType

def literalType (k : Kind) : Parse Node := do
  let first ← Parse.pos
  let x ← Parse.leaf k
  Parse.finish .literalType first [x]

namespace Parse

def namesInBracesAhead : Nat → Nat → Parse (Option Nat)
  | 0, _ => pure none
  | fuel + 1, i => do
    let t ← peekAt i
    let n ← peekAt (i + 1)
    if !t.isName then pure none
    else if n.isPunct "," then namesInBracesAhead fuel (i + 2)
    else if n.isPunct closeBrace then
      let after ← peekAt (i + 2)
      pure (if after.isPunct ")" || after.isPunct "=" then some (i + 2) else none)
    else pure none

def window (n : Nat) : Parse (List Token) := do
  (List.range n).mapM fun i => peekAt i

def skip : Nat → Parse Unit
  | 0 => pure ()
  | n + 1 => do advance; skip n

def semicolon (afterExpr : Bool) : Parse Unit := do
  let t ← peek
  let s ← get
  if t.isPunct ";" then advance
  else if (if afterExpr then t.endsExpr else t.endsType) && !(← atResume) then pure ()
  else if s.strictEnd then fail
  else
    let here := s.levels.head?.getD (.statements false)
    if t.isEof || here.accepts t then
      markError
      addCost missingCost
    else fail

def atBarClose : Parse Bool := do
  let t ← peek
  let n ← peekAt 1
  pure (t.isPunct "|" && n.isPunct closeBrace && t.stop == n.start)

def modifierAhead : Parse Bool := do
  let t ← peekAt 1
  pure (t.startsPropertyName || t.isPunct "*" || t.isPunct "#")

def indexSignatureAhead : Parse Bool := do
  let a ← peekAt 1
  let b ← peekAt 2
  pure (a.kind == .word && (b.isPunct ":" || b.isWord "in"))

def declarationAhead : Parse Bool := do
  let t ← peek
  let a ← peekAt 1
  let b ← peekAt 2
  if t.kind != .word then pure false
  else
    let w := t.text
    pure <|
      -- after `type` read as a name, `as` and `satisfies` continue an expression
      if w == "type" then a.isName && !a.isWord "as" && !a.isWord "satisfies" &&
        !a.lineBefore && !b.isPunct "=>" && !b.isPunct "." && !b.isPunct "("
      else if w == "interface" then a.isName && !a.lineBefore
      else if w == "enum" then a.isName
      else if w == "namespace" || w == "module" then
        (a.isName || a.kind == .string) && !a.lineBefore
      else if w == "abstract" then a.isWord "class"
      else if w == "class" then a.kind == .word || a.isPunct openBrace || a.isPunct "<"
      else if w == "function" then true
      else if w == "async" then a.isWord "function" && !a.lineBefore
      else if w == "const" then a.startsPattern || a.isWord "enum"
      -- `let` is also a name, and a line break may end the statement after it
      else if w == "let" then (a.isName || a.isPunct "[" || a.isPunct openBrace) &&
        !(a.lineBefore && a.endsExpr)
      else if w == "using" then a.isName && !a.lineBefore
      else if w == "var" then a.startsPattern
      else if w == "declare" then
        !a.lineBefore && a.kind == .word && (declarationWords.contains a.text || a.isWord "global")
      else if w == "global" then a.isPunct openBrace
      else false

def subscriptIndexAhead (n : Nat) : Parse Bool := do
  let t ← peekAt n
  let close ← peekAt (n + 1)
  pure (close.isPunct "]" && (t.kind == .string || t.kind == .number ||
    (t.kind == .word && predefinedTypeWords.contains t.text)))

def exportWords : List String :=
  ["default", "type", "import", "declare", "as", "namespace", "module", "function", "async",
   "class", "abstract", "const", "let", "var", "interface", "enum", "using"]

def exportGoesOn (t : Token) : Bool :=
  !t.endsExpr && (t.isPunct "*" || t.isPunct openBrace || t.isPunct "=" || t.isPunct "@" ||
    (t.kind == .word && exportWords.contains t.text))

def aliasNameAt (ts : Array Token) (k : Nat) : Nat → Option Nat
  | 0 => none
  | fuel + 1 =>
    match ts[k]? with
    | none => none
    | some t =>
      if t.lineBefore || t.isEof || t.isPunct ";" || t.isPunct openBrace || t.isPunct closeBrace ||
          t.isPunct "=" then none
      else if t.kind == .word && ((ts[k + 1]?.map fun u => u.isPunct "=" || u.isPunct "<").getD false)
        then some k
      else aliasNameAt ts (k + 1) fuel

def aliasNameRecovery : Parse (List Node) := do
  let i ← pos
  let t1 ← peekAt 1
  if t1.isPunct "=" || t1.isPunct "<" then pure []
  else
    let ts ← read
    match aliasNameAt ts (i + 1) ts.size with
    | some j =>
      seek j
      markError
      pure [← finish .error i []]
    | none => pure []

def memberEnd (inClass : Bool) (m : Node) : Parse Unit := do
  let t ← peek
  if t.isPunct "," || t.isPunct ";" || t.isPunct closeBrace || (!inClass && (← atBarClose)) ||
      (inClass && m.kind == .methodDefinition) then pure ()
  else if t.endsType && !(← atResume) then pure ()
  else fail

def signatureModifierRank (w : String) : Option Nat :=
  if w == "public" || w == "private" || w == "protected" then some 0
  else if w == "static" then some 1
  else if w == "override" then some 2
  else if w == "readonly" then some 3
  else if w == "async" then some 4
  else none

def signatureModifiers : Nat → Nat → List Node → Bool → Parse (List Node × Bool)
  | 0, _, acc, isAsync => pure (acc.reverse, isAsync)
  | fuel + 1, rank, acc, isAsync => do
    let t ← peek
    match (if t.kind == .word then signatureModifierRank t.text else none) with
    | some r =>
      if r ≥ rank && (← modifierAhead) && !(← peekAt 1).lineBefore then
        if r == 0 then
          let m ← leaf .accessibilityModifier
          signatureModifiers fuel (r + 1) (m :: acc) isAsync
        else if r == 2 then
          let m ← leaf .overrideModifier
          signatureModifiers fuel (r + 1) (m :: acc) isAsync
        else
          advance
          signatureModifiers fuel (r + 1) acc (isAsync || r == 4)
      else pure (acc.reverse, isAsync)
    | none => pure (acc.reverse, isAsync)

def atReadonlyType : Parse Bool := do
  let next ← peekAt 1
  pure ((← atWord "readonly") && next.startsType && !next.isPunct "|")

end Parse

mutual

-- Types

def typeExpr : Nat → Bool → Parse Node
  | 0, _ => fail
  | f + 1, ends => do
    let first ← pos
    let t ← peek
    if t.isWord "readonly" && (← peekAt 1).startsType && !(← peekAt 1).isPunct "|" then
      advance
      let inner ← typeExpr f ends
      finish .readonlyType first [inner]
    else
      let left ← unionType f ends
      let t ← peek
      if t.isWord "extends" && !(ends && t.endsType) then
        advance
        let right ← unionType f false
        expectPunct "?"
        let yes ← typeExpr f false
        expectPunct ":"
        let no ← typeExpr f ends
        finish .conditionalType first
          [left.withRole .left, right.withRole .right, yes.withRole .consequence,
           no.withRole .alternative]
      else pure left
termination_by structural n _ => n

def returnType : Nat → Bool → Parse Node
  | 0, _ => fail
  | f + 1, ends => do
    let first ← pos
    let t ← peek
    let next ← peekAt 1
    if t.isWord "asserts" && (next.isName || next.isWord "this") && !next.lineBefore then
      advance
      let name ← leaf (if (← atWord "this") then .this else .identifier)
      if (← atWord "is") then
        advance
        let ty ← typeExpr f ends
        let p ← finish .typePredicate (first + 1) [name.withRole .name, ty.withRole .type]
        finish .asserts first [p]
      else finish .asserts first [name]
    else if (t.isName || t.isWord "this") && next.isWord "is" && !next.lineBefore then
      let name ← leaf (if t.isWord "this" then .this else .identifier) (some .name)
      advance
      let ty ← typeExpr f ends
      finish .typePredicate first [name, ty.withRole .type]
    else typeExpr f ends
termination_by structural n _ => n

def unionType : Nat → Bool → Parse Node
  | 0, _ => fail
  | f + 1, ends => do
    let first ← pos
    let a ← unionOperand f ends
    unionRest f ends first a
termination_by structural n _ => n

def unionOperand : Nat → Bool → Parse Node
  | 0, _ => fail
  | f + 1, ends => do
    let first ← pos
    if (← atPunct "|") && !(← atBarClose) then
      advance
      let b ← unionOperand f ends
      finish .unionType first [b]
    else if (← atReadonlyType) then
      -- a readonly type is an operand too, and it takes the rest of the type with it
      advance
      let inner ← typeExpr f ends
      finish .readonlyType first [inner]
    else intersectionType f ends
termination_by structural n _ => n

def unionRest : Nat → Bool → Nat → Node → Parse Node
  | 0, _, _, _ => fail
  | f + 1, ends, first, acc => do
    if (← atPunct "|") && !(← atBarClose) then
      advance
      let b ← unionOperand f ends
      unionRest f ends first (← finish .unionType first [acc, b])
    else pure acc
termination_by structural n _ _ _ => n

def intersectionType : Nat → Bool → Parse Node
  | 0, _ => fail
  | f + 1, ends => do
    let first ← pos
    let a ← if (← atPunct "&") then intersectionOperand f ends else postfixType f ends
    intersectionRest f ends first a
termination_by structural n _ => n

def intersectionOperand : Nat → Bool → Parse Node
  | 0, _ => fail
  | f + 1, ends => do
    let first ← pos
    if (← atPunct "&") then
      advance
      let b ← intersectionOperand f ends
      finish .intersectionType first [b]
    else if (← atPunct "|") && !(← atBarClose) then
      advance
      let b ← unionOperand f ends
      finish .unionType first [b]
    else if (← atReadonlyType) then
      advance
      let inner ← typeExpr f ends
      finish .readonlyType first [inner]
    else postfixType f ends
termination_by structural n _ => n

def intersectionRest : Nat → Bool → Nat → Node → Parse Node
  | 0, _, _, _ => fail
  | f + 1, ends, first, acc => do
    if (← atPunct "&") then
      advance
      let b ← intersectionOperand f ends
      intersectionRest f ends first (← finish .intersectionType first [acc, b])
    else pure acc
termination_by structural n _ _ _ => n

def postfixType : Nat → Bool → Parse Node
  | 0, _ => fail
  | f + 1, ends => do
    let first ← pos
    let base ← primaryType f ends
    postfixRest f ends first base
termination_by structural n _ => n

def postfixRest : Nat → Bool → Nat → Node → Parse Node
  | 0, _, _, _ => fail
  | f + 1, ends, first, acc => do
    let t ← peek
    if t.isPunct "[" && !(ends && t.endsType) then
      advance
      if (← atPunct "]") then
        advance
        postfixRest f ends first (← finish .arrayType first [acc])
      else
        let index ← typeExpr f false
        expectPunct "]"
        postfixRest f ends first (← finish .lookupType first [acc, index])
    else pure acc
termination_by structural n _ _ _ => n

def primaryType : Nat → Bool → Parse Node
  | 0, _ => fail
  | f + 1, ends => do
    let first ← pos
    let t ← peek
    match t.kind with
    | .string => literalType .string
    | .number => literalType .number
    | .punct =>
      if t.text == "(" then
        -- a failure is placed at the furthest token that either reading reached
        match ← tryParse (functionType f ends) with
        | .ok fn => pure fn
        | .error e1 =>
          let paren : Parse Node := do
            advance
            let inner ← typeExpr f false
            expectPunct ")"
            finish .parenthesizedType first [inner]
          match ← tryParse paren with
          | .ok p => pure p
          | .error e2 => failAt (max e1.pos e2.pos)
      else if t.text == "<" then functionType f ends
      else if t.text == openBrace then objectType f
      else if t.text == "[" then tupleType f
      else if t.text == backtickText then templateLiteralType f
      else if (t.text == "-" || t.text == "+") && (← peekAt 1).kind == .number then
        advance
        let n ← leaf .number (some .argument)
        let u ← finish .unaryExpression first [n]
        finish .literalType first [u]
      else if t.text == "*" then leaf .existentialType
      else if t.text == "?" then
        advance
        let inner ← primaryType f ends
        finish .flowMaybeType first [inner]
      else fail
    | .word =>
      let next ← peekAt 1
      let w := t.text
      if w == "true" then literalType .trueLit
      else if w == "false" then literalType .falseLit
      else if w == "null" then literalType .nullLit
      else if w == "undefined" then literalType .undefinedLit
      else if w == "typeof" && (next.kind == .word) then typeQuery f
      else if typePrefixWords.contains w && next.closesType then
        -- a type keyword with nothing after it: the type it takes is missing, save where
        -- the parse resumes after an error
        advance
        if (← atResume) then fail
        let m ← missing .typeIdentifier
        let kind := if w == "keyof" then Kind.indexTypeQuery
          else if w == "infer" then .inferType else .readonlyType
        finish kind first [m]
      else if w == "abstract" && !next.isWord "new" then
        advance
        fail
      else if w == "keyof" && next.startsType && !next.isPunct "|" && !next.isPunct "&" then
        advance
        let inner ← if (← atWord "readonly") && (← peekAt 1).startsType then typeExpr f ends
          else postfixType f ends
        -- `keyof` takes a primary type: after a function, constructor or readonly type the
        -- parse cannot go on
        if takesNoPrefix inner.kind then fail
        finish .indexTypeQuery first [inner]
      else if w == "unique" && next.isWord "symbol" then
        advance; advance
        finish .predefinedType first []
      else if w == "infer" && next.isName then
        advance
        let name ← nameLeaf .typeIdentifier
        let c ← if (← atWord "extends") then do
            advance
            pure [← unionType f ends]
          else pure []
        finish .inferType first (name :: c)
      else if w == "this" then leaf .thisType
      else if w == "const" then leaf .constKeyword
      else if (w == "new" && (next.isPunct "(" || next.isPunct "<")) ||
          (w == "abstract" && next.isWord "new") then constructorType f ends
      else if predefinedTypeWords.contains w && !next.isPunct "." then leaf .predefinedType
      else if t.isReserved then fail
      else typeName f
    | _ => fail
termination_by structural n _ => n

def typeName : Nat → Parse Node
  | 0 => fail
  | f + 1 => do
    let first ← pos
    if !(← atName) then fail
    else
      let named ←
        if (← peekAt 1).isPunct "." && (← peekAt 2).kind == .word then
          let m ← leaf .identifier (some .module)
          qualified f first m
        else leaf .typeIdentifier
      if (← atPunct "<") then
        let args ← typeArguments f
        finish .genericType first [named.withRole .name, args.withRole .typeArguments]
      else pure named
termination_by structural n => n

def qualified : Nat → Nat → Node → Parse Node
  | 0, _, _ => fail
  | f + 1, first, m => do
    expectPunct "."
    if (← peekAt 1).isPunct "." && (← peekAt 2).kind == .word then
      let p ← leaf .propertyIdentifier (some .property)
      let m' ← finish .nestedIdentifier first [m.withRole .object, p] (some .module)
      qualified f first m'
    else
      let name ← leaf .typeIdentifier (some .name)
      finish .nestedTypeIdentifier first [m, name]
termination_by structural n _ _ => n

def typeArguments : Nat → Parse Node
  | 0 => fail
  | f + 1 => do
    let first ← pos
    expectPunct "<"
    -- `<>` holds a missing type name, save where the parse resumes after an error
    let args ← if (← atPunct ">") then do
        if (← atResume) then fail
        let m ← missing .typeIdentifier
        advance
        pure [m]
      else typeList f ">" []
    finish .typeArguments first args
termination_by structural n => n

def typeList : Nat → String → List Node → Parse (List Node)
  | 0, _, _ => fail
  | f + 1, close, acc => do
    if (← atPunct close) then advance; pure acc.reverse
    else
      let ty ← typeExpr f false
      if (← eatPunct ",") then typeList f close (ty :: acc)
      else do expectPunct close; pure (ty :: acc).reverse
termination_by structural n _ _ => n

def typeParameters : Nat → Parse Node
  | 0 => fail
  | f + 1 => do
    let first ← pos
    expectPunct "<"
    -- `<>` holds a parameter with a missing name, save where the parse resumes after an error
    let ps ← if (← atPunct ">") then do
        if (← atResume) then fail
        let m ← missing .typeIdentifier (some .name)
        let p := { m with kind := .typeParameter, role := none, children := [m] }
        advance
        pure [p]
      else typeParameterList f []
    finish .typeParameters first ps
termination_by structural n => n

def typeParameterList : Nat → List Node → Parse (List Node)
  | 0, _ => fail
  | f + 1, acc => do
    if (← atPunct ">") then advance; pure acc.reverse
    else
      let p ← typeParameter f
      if (← eatPunct ",") then typeParameterList f (p :: acc)
      else do expectPunct ">"; pure (p :: acc).reverse
termination_by structural n _ => n

def typeParameter : Nat → Parse Node
  | 0 => fail
  | f + 1 => do
    let first ← pos
    -- a `const` modifier may come before the name; there are no variance modifiers
    if (← atWord "const") && (← peekAt 1).kind == .word then advance
    let name ← nameLeaf .typeIdentifier (some .name)
    let c ← if (← atWord "extends") then do
        let cf ← pos
        advance
        let ty ← typeExpr f false
        pure [← finish .constraint cf [ty] (some .constraint)]
      else pure []
    let d ← if (← atPunct "=") then do
        let df ← pos
        advance
        let ty ← typeExpr f false
        pure [← finish .defaultType df [ty] (some .value)]
      else pure []
    finish .typeParameter first (name :: c ++ d)
termination_by structural n => n

def functionType : Nat → Bool → Parse Node
  | 0, _ => fail
  | f + 1, ends => do
    let first ← pos
    let tps ← if (← atPunct "<") then do pure [(← typeParameters f).withRole .typeParameters]
      else pure []
    if tps.isEmpty && (← peekAt 1).isPunct openBrace then
      match ← Parse.namesInBracesAhead (← read).size 2 with
      | some k => failAt (← indexAt k)
      | none => pure ()
    let ps ← formalParameters f
    expectPunct "=>"
    let result ← returnType f ends
    finish .functionType first (tps ++ [ps.withRole .parameters, result.withRole .returnType])
termination_by structural n _ => n

def constructorType : Nat → Bool → Parse Node
  | 0, _ => fail
  | f + 1, ends => do
    let first ← pos
    if (← atWord "abstract") then advance
    expectWord "new"
    let tps ← if (← atPunct "<") then do pure [(← typeParameters f).withRole .typeParameters]
      else pure []
    let ps ← formalParameters f
    expectPunct "=>"
    let result ← typeExpr f ends
    finish .constructorType first (tps ++ [ps.withRole .parameters, result.withRole .type])
termination_by structural n _ => n

def typeQuery : Nat → Parse Node
  | 0 => fail
  | f + 1 => do
    let first ← pos
    expectWord "typeof"
    let nf ← pos
    let head ← if (← atWord "import") then leaf .importExpression
      else if (← atWord "this") then leaf .this
      else leaf .identifier
    let sub ← typeQueryRest f nf head
    finish .typeQuery first [sub]
termination_by structural n => n

def typeQueryRest : Nat → Nat → Node → Parse Node
  | 0, _, _ => fail
  | f + 1, first, acc => do
    let t ← peek
    let next ← peekAt 1
    let isImport := acc.kind == .importExpression
    let callable := acc.kind != .this && acc.kind != .callExpression
    if (t.isPunct "." || (t.isPunct "?." && !next.isPunct "[")) && !isImport then
      advance
      let p ← if (← peek).kind == .privateName then leaf .privatePropertyIdentifier (some .property)
        else if (← peek).kind == .word then leaf .propertyIdentifier (some .property)
        else fail
      typeQueryRest f first (← finish .memberExpression first [acc.withRole .object, p])
    else if (t.isPunct "[" && !t.lineBefore || t.isPunct "?." && next.isPunct "[") && !isImport &&
        (← subscriptIndexAhead (if t.isPunct "?." then 2 else 1)) then
      if t.isPunct "?." then advance
      advance
      let idx ← if (← peek).kind == .word then leaf .predefinedType
        else if (← peek).kind == .string then leaf .string else leaf .number
      expectPunct "]"
      typeQueryRest f first
        (← finish .subscriptExpression first [acc.withRole .object, idx.withRole .index])
    else if t.isPunct "(" && callable then
      let args ← arguments f
      typeQueryRest f first
        (← finish .callExpression first [acc.withRole .function, args.withRole .arguments])
    else if t.isPunct "<" && callable then
      let args ← typeArguments f
      finish .instantiationExpression first [acc.withRole .function, args.withRole .typeArguments]
    else if isImport then fail
    else pure acc
termination_by structural n _ _ => n

def objectType : Nat → Parse Node
  | 0 => fail
  | f + 1 => do
    let first ← openMembers f
    let brace ← tokenAt first
    let bar ← peek
    if bar.isPunct "|" && bar.start == brace.stop then advance
    let members ← withLevel .members (memberList f false false [])
    finish .objectType first members
termination_by structural n => n

def memberList : Nat → Bool → Bool → List Node → Parse (List Node)
  | 0, _, _, _ => fail
  | f + 1, inClass, sep, acc => do
    let t ← peek
    if t.isPunct closeBrace then advance; pure acc.reverse
    else if !inClass && (← atBarClose) then advance; advance; pure acc.reverse
    else if t.isEof then fail
    else if t.isPunct "," || t.isPunct ";" then
      if sep && !inClass then
        let first ← pos
        markError
        addCost (recoveryCost + treeCost + (t.stop - t.start))
        advance
        let err ← finish .error first []
        memberList f inClass true (err :: acc)
      else
        advance
        memberList f inClass true acc
    else if t.startsMember then
      let start ← pos
      let unit : Parse Node := do
        let m ← if inClass then classMember f else objectMember f
        memberEnd inClass m
        pure m
      match ← tryParse unit with
      | .ok m => memberList f inClass false (m :: acc)
      | .error e =>
        let before ← get
        -- a brace read inside template text closes the list only for the template to fail
        -- right after it: what skipping the token after the brace costs counts
        let follow : Parse Unit := do
          let t ← peek
          if t.isPunct closeBrace && t.inTemplate then
            let ts ← read
            let i := visibleFrom (← get).hidden ((← pos) + 1)
            addCost (Recovery.rangeCost ts i (i + 1) 1)
          -- a way that closes the list has to leave a token that can come after the type
          else if t.isPunct closeBrace && !(← peekAt 1).followsType then fail
        match ← (if inClass then pure none
            else recover unit start e (fun _ => false) false (some follow)) with
        | some m =>
          settle start before m
          memberList f inClass false (m :: acc)
        | none =>
        match ← (if inClass then pure none else replaySettled start) with
        | some m => memberList f inClass false (m :: acc)
        | none =>
          -- a member that parses is kept, and what follows it is skipped
          match ← tryParse (if inClass then classMember f else objectMember f) with
          | .ok m =>
            markError
            recoverMembers f inClass (m :: acc) (← pos) (← pos) (fun _ => false)
          | .error e2 =>
            let ts ← read
            let s ← get
            -- where the member could still go on, recovery stays inside it
            let inside (r : Nat) : Bool :=
              !inClass && r ≤ Recovery.skipVisible s.hidden Recovery.maxSkipped e.pos &&
                Recovery.resumesInside unit ts start s e.pos r
            recoverMembers f inClass acc start e2.pos inside
    else
      markError
      recoverMembers f inClass acc (← pos) (← pos) (fun _ => false)
termination_by structural n _ _ _ => n

def recoverMembers : Nat → Bool → List Node → Nat → Nat → (Nat → Bool) → Parse (List Node)
  | 0, _, _, _, _, _ => fail
  | f + 1, inClass, acc, start, at_, inside => do
    markError
    let t ← tokenAt at_
    if t.isEof then failAt at_
    else if Level.members.accepts t && at_ > start && !inside at_ then
      addCost (Recovery.rangeCost (← read) start at_ (at_ - start))
      seek start
      let errStart ← pos
      seek at_
      let err ← finish .error errStart []
      memberList f inClass false (err :: acc)
    else if (← outerAccepts t) && !(Level.members.accepts t) then failAt at_
    else recoverMembers f inClass acc start (at_ + 1) inside
termination_by structural n _ _ _ _ _ => n

def objectMember : Nat → Parse Node
  | 0 => fail
  | f + 1 => do
    let first ← pos
    let t ← peek
    let next ← peekAt 1
    if (t.isWord "export" && !([":", "?", "(", "<", ",", ";", closeBrace].any next.isPunct)) ||
        t.isPunct "@" then
      exportStatement f
    else if t.isPunct "(" || t.isPunct "<" then
      let parts ← callSignatureParts f
      finish .callSignature first parts
    else if t.isWord "new" && (next.isPunct "(" || next.isPunct "<") then
      advance
      let parts ← callSignatureParts f
      finish .constructSignature first parts
    else if t.isWord "abstract" then
      -- `abstract` only stands before `new`
      advance
      if !(← atWord "new") || !((← peekAt 1).isPunct "(" || (← peekAt 1).isPunct "<") then fail
      advance
      let parts ← callSignatureParts f
      finish .constructSignature first parts
    else if (t.isPunct "-" || t.isPunct "+") && next.isWord "readonly" then
      advance; advance
      indexSignature f first []
    else if t.isWord "readonly" && next.isPunct "[" then
      advance
      indexSignature f first []
    else if t.isPunct "[" && (← indexSignatureAhead) then indexSignature f first []
    else
      let (mods, isAsync) ← signatureModifiers 5 0 [] false
      -- like `async`, `get`, `set` and `*` make the member a method
      let marked ←
        if (← atPunct "*") then do advance; pure true
        else if ((← atWord "get") || (← atWord "set")) && (← modifierAhead) then do
          advance; pure true
        else pure false
      let name ← propertyName f
      let _ ← eatPunct "?"
      if (← atPunct "(") || (← atPunct "<") then
        let parts ← callSignatureParts f
        finish .methodSignature first (mods ++ name.withRole .name :: parts)
      else if isAsync || marked then fail
      else if (← atPunct ":") then
        let ann ← colonType f true
        finish .propertySignature first (mods ++ [name.withRole .name, ann.withRole .type])
      else finish .propertySignature first (mods ++ [name.withRole .name])
termination_by structural n => n

def modifiers : Nat → Bool → List Node → Parse (List Node)
  | 0, _, _ => fail
  | f + 1, inClass, acc => do
    let t ← peek
    if t.kind == .word && memberModifiers.contains t.text && (← modifierAhead) &&
        !(← peekAt 1).lineBefore then
      if ["public", "private", "protected"].contains t.text then
        let m ← leaf .accessibilityModifier
        modifiers f inClass (m :: acc)
      else if t.text == "override" then
        let m ← leaf .overrideModifier
        modifiers f inClass (m :: acc)
      else
        advance
        modifiers f inClass acc
    else pure acc.reverse
termination_by structural n _ _ => n

def indexSignature : Nat → Nat → List Node → Parse Node
  | 0, _, _ => fail
  | f + 1, first, mods => do
    expectPunct "["
    let inner ← if (← peekAt 1).isWord "in" then do
        let cf ← pos
        let name ← leaf .typeIdentifier (some .name)
        advance
        let ty ← typeExpr f false
        let aliasName ← if (← atWord "as") then do advance; pure [(← typeExpr f false).withRole .aliasName]
          else pure []
        pure [← finish .mappedTypeClause cf (name :: ty.withRole .type :: aliasName)]
      else do
        let name ← leaf .identifier (some .name)
        expectPunct ":"
        let ty ← typeExpr f false
        pure [name, ty.withRole .indexType]
    expectPunct "]"
    let af ← pos
    let t ← peek
    let t1 ← peekAt 1
    let kind? : Option (Kind × Nat) :=
      if t.isPunct "-" && t1.isPunct "?" then some (.omittingColonType, 2)
      else if t.isPunct "+" && t1.isPunct "?" then some (.addingColonType, 2)
      else if t.isPunct "?" then some (.optingColonType, 1)
      else if t.isPunct ":" then some (.colonType, 0)
      else none
    match kind? with
    | some (k, n) =>
      skip n
      expectPunct ":"
      let ty ← typeExpr f true
      let ann ← finish k af [ty] (some .type)
      finish .indexSignature first (mods ++ inner ++ [ann])
    | none => finish .indexSignature first (mods ++ inner)
termination_by structural n _ _ => n

def propertyName : Nat → Parse Node
  | 0 => fail
  | f + 1 => do
    let first ← pos
    let t ← peek
    match t.kind with
    -- where the parse goes on after an error, a keyword is a name only if it can be one
    | .word =>
      if (← atKeywordOnly) && !nameKeywords.contains t.text then fail
      else leaf .propertyIdentifier
    | .string => leaf .string
    | .number => leaf .number
    | .privateName => leaf .privatePropertyIdentifier
    | _ =>
      if t.isPunct "[" then
        advance
        let e ← if (← atPunct "]") && !(← atResume) then missing .identifier
          else expression f false
        expectPunct "]"
        finish .computedPropertyName first [e]
      else fail
termination_by structural n => n

def callSignatureParts : Nat → Parse (List Node)
  | 0 => fail
  | f + 1 => do
    let tps ← if (← atPunct "<") then do pure [(← typeParameters f).withRole .typeParameters]
      else pure []
    let ps ← formalParameters f
    let ret ← if (← atPunct ":") then do pure [(← returnColonType f true).withRole .returnType]
      else pure []
    pure (tps ++ ps.withRole .parameters :: ret)
termination_by structural n => n

def colonType : Nat → Bool → Parse Node
  | 0, _ => fail
  | f + 1, ends => do
    let first ← pos
    expectPunct ":"
    let next ← peekAt 1
    let ty ← if (← atWord "import") && (next.isPunct "(" || next.isPunct ".") then do
        let nf ← pos
        importTypeRest f nf (← leaf .importExpression)
      else typeExpr f ends
    finish .colonType first [ty]
termination_by structural n _ => n

def importTypeRest : Nat → Nat → Node → Parse Node
  | 0, _, _ => fail
  | f + 1, first, acc => do
    let t ← peek
    if t.isPunct "." then
      advance
      let p ← if (← peek).kind == .privateName then leaf .privatePropertyIdentifier (some .property)
        else if (← peek).kind == .word then leaf .propertyIdentifier (some .property)
        else fail
      importTypeRest f first (← finish .memberExpression first [acc.withRole .object, p])
    else if t.isPunct "(" && acc.kind != .callExpression then
      let args ← arguments f
      importTypeRest f first
        (← finish .callExpression first [acc.withRole .function, args.withRole .arguments])
    else if acc.kind == .importExpression then fail
    else pure acc
termination_by structural n _ _ => n

def returnColonType : Nat → Bool → Parse Node
  | 0, _ => fail
  | f + 1, ends => do
    let first ← pos
    expectPunct ":"
    let ty ← returnType f ends
    let kind := if ty.kind == .typePredicate then Kind.predicateColonType
      else if ty.kind == .asserts then .assertsColonType else .colonType
    finish kind first [ty]
termination_by structural n _ => n

def tupleType : Nat → Parse Node
  | 0 => fail
  | f + 1 => do
    let first ← pos
    expectPunct "["
    let elems ← tupleElements f []
    finish .tupleType first elems
termination_by structural n => n

def tupleElements : Nat → List Node → Parse (List Node)
  | 0, _ => fail
  | f + 1, acc => do
    if (← atPunct "]") then advance; pure acc.reverse
    else
      let e ← tupleElement f
      if (← eatPunct ",") then tupleElements f (e :: acc)
      else do expectPunct "]"; pure (e :: acc).reverse
termination_by structural n _ => n

def tupleElement : Nat → Parse Node
  | 0 => fail
  | f + 1 => do
    let first ← pos
    let t ← peek
    let next ← peekAt 1
    if t.isPunct "..." then
      if next.kind == .word && (← peekAt 2).isPunct ":" then
        advance
        let id ← leaf .identifier
        let pat ← finish .restPattern first [id] (some .pattern)
        let ann ← colonType f false
        finish .requiredParameter first [pat, ann.withRole .type]
      else
        advance
        let ty ← typeExpr f false
        finish .restType first [ty]
    else if t.kind == .word && (next.isPunct ":" || (next.isPunct "?" && (← peekAt 2).isPunct ":")) then
      let id ← leaf .identifier (some .pattern)
      let opt ← eatPunct "?"
      let ann ← colonType f false
      finish (if opt then .optionalParameter else .requiredParameter) first [id, ann.withRole .type]
    else
      let ty ← typeExpr f false
      if (← atPunct "?") then
        advance
        finish .optionalType first [ty]
      else pure ty
termination_by structural n => n

def templateLiteralType : Nat → Parse Node
  | 0 => fail
  | f + 1 => do
    let first ← pos
    expectPunct backtickText
    let parts ← templateTypeParts f []
    finish .templateLiteralType first parts
termination_by structural n => n

def templateTypeParts : Nat → List Node → Parse (List Node)
  | 0, _ => fail
  | f + 1, acc => do
    let t ← peek
    if t.isPunct backtickText then advance; pure acc.reverse
    else if t.kind == .templateChars then
      let s ← leaf .stringFragment
      templateTypeParts f (s :: acc)
    else if t.isPunct "$\x7b" then
      let first ← pos
      advance
      let ty ← typeExpr f false
      -- a substitution holds a primary type
      if takesNoPrefix ty.kind then fail
      expectPunct closeBrace
      templateTypeParts f ((← finish .templateType first [ty]) :: acc)
    else fail
termination_by structural n _ => n

-- Parameters and patterns

def formalParameters : Nat → Parse Node
  | 0 => fail
  | f + 1 => do
    let first ← pos
    expectPunct "("
    let ps ← parameterList f []
    finish .formalParameters first ps
termination_by structural n => n

def parameterList : Nat → List Node → Parse (List Node)
  | 0, _ => fail
  | f + 1, acc => do
    if (← atPunct ")") then advance; pure acc.reverse
    else
      let p ← parameter f
      if (← eatPunct ",") then parameterList f (p :: acc)
      else do expectPunct ")"; pure (p :: acc).reverse
termination_by structural n _ => n

def parameter : Nat → Parse Node
  | 0 => fail
  | f + 1 => do
    let first ← pos
    let decs ← decorators f []
    let mods ← modifiers f false []
    let pat ← if (← atWord "this") && !(← peekAt 1).isPunct "." then leaf .this (some .pattern)
      else do pure ((← bindingPattern f).withRole .pattern)
    let opt ← eatPunct "?"
    let ty ← if (← atPunct ":") then do pure [(← colonType f false).withRole .type]
      else pure []
    let val ← if (← atPunct "=") then do advance; pure [(← expression f false).withRole .value]
      else pure []
    finish (if opt then .optionalParameter else .requiredParameter) first
      (decs ++ mods ++ pat :: ty ++ val)
termination_by structural n => n

def bindingPattern : Nat → Parse Node
  | 0 => fail
  | f + 1 => do
    let first ← pos
    let t ← peek
    if t.isPunct "..." then
      advance
      let inner ← bindingPattern f
      finish .restPattern first [inner]
    else if t.isPunct openBrace then
      advance
      let ps ← objectPatternMembers f []
      finish .objectPattern first ps
    else if t.isPunct "[" then
      advance
      let ps ← arrayPatternMembers f []
      finish .arrayPattern first ps
    else if t.isName then leaf .identifier
    else fail
termination_by structural n => n

def objectPatternMembers : Nat → List Node → Parse (List Node)
  | 0, _ => fail
  | f + 1, acc => do
    if (← atPunct closeBrace) then advance; pure acc.reverse
    else
      let first ← pos
      let m ←
        if (← atPunct "...") then bindingPattern f
        else if (← peekAt 1).isPunct ":" || (← atPunct "[") || (← peek).kind != .word then do
          let key ← propertyName f
          expectPunct ":"
          let v ← patternWithDefault f
          finish .pairPattern first [key.withRole .key, v.withRole .value]
        else do
          let id ← leaf .shorthandPropertyIdentifierPattern
          if (← atPunct "=") then
            advance
            let v ← expression f false
            finish .objectAssignmentPattern first [id.withRole .left, v.withRole .right]
          else pure id
      if (← eatPunct ",") then objectPatternMembers f (m :: acc)
      else do expectPunct closeBrace; pure (m :: acc).reverse
termination_by structural n _ => n

def arrayPatternMembers : Nat → List Node → Parse (List Node)
  | 0, _ => fail
  | f + 1, acc => do
    if (← atPunct "]") then advance; pure acc.reverse
    else if (← atPunct ",") then advance; arrayPatternMembers f acc
    else
      let m ← patternWithDefault f
      if (← eatPunct ",") then arrayPatternMembers f (m :: acc)
      else do expectPunct "]"; pure (m :: acc).reverse
termination_by structural n _ => n

def patternWithDefault : Nat → Parse Node
  | 0 => fail
  | f + 1 => do
    let first ← pos
    let p ← bindingPattern f
    if (← atPunct "=") then
      advance
      let v ← expression f false
      finish .assignmentPattern first [p.withRole .left, v.withRole .right]
    else pure p
termination_by structural n => n

def decorators : Nat → List Node → Parse (List Node)
  | 0, _ => fail
  | f + 1, acc => do
    if (← atPunct "@") then
      let first ← pos
      advance
      let e ← callMember f false
      decorators f ((← finish .decorator first [e] (some .decorator)) :: acc)
    else pure acc.reverse
termination_by structural n _ => n

-- Expressions

def expressions : Nat → Bool → Parse Node
  | 0, _ => fail
  | f + 1, ends => do
    let first ← pos
    let e ← expression f ends
    if (← atPunct ",") then
      advance
      let rest ← expressions f ends
      finish .sequenceExpression first [e, rest]
    else pure e
termination_by structural n _ => n

def expression : Nat → Bool → Parse Node
  | 0, _ => fail
  | f + 1, ends => do
    let first ← pos
    let t ← peek
    let next ← peekAt 1
    let arrow? ←
      if t.kind == .word && next.isPunct "=>" && !next.lineBefore then
        attempt (arrowFunction f ends)
      else if t.isPunct "(" || t.isPunct "<" ||
          (t.isWord "async" && !next.lineBefore &&
            (next.isPunct "(" || next.isPunct "<" || next.kind == .word)) then
        attempt (arrowFunction f ends)
      else pure none
    match arrow? with
    | some a => pure a
    | none =>
      if t.isWord "yield" && !(← peekAt 1).isPunct "/" then
        advance
        let arg ← if (← peek).endsExpr || (← atPunct ")") || (← atPunct "]") ||
            (← atPunct closeBrace) || (← atPunct ",") || (← atPunct ";") then pure []
          else do
            let _ ← eatPunct "*"
            pure [← expression f ends]
        finish .yieldExpression first arg
      else
        let left ← ternary f ends
        let ts ← window 4
        match assignmentOperator ts with
        | some (op, n) =>
          skip n
          let right ← expression f ends
          finish (if op == "=" then .assignmentExpression else .augmentedAssignmentExpression)
            first [left.withRole .left, right.withRole .right]
        | none => pure left
termination_by structural n _ => n

def ternary : Nat → Bool → Parse Node
  | 0, _ => fail
  | f + 1, ends => do
    let first ← pos
    let c ← binary f ends 0
    if (← atPunct "?") then
      advance
      let a ← expression f false
      expectPunct ":"
      let b ← expression f ends
      finish .ternaryExpression first
        [c.withRole .condition, a.withRole .consequence, b.withRole .alternative]
    else pure c
termination_by structural n _ => n

def binary : Nat → Bool → Nat → Parse Node
  | 0, _, _ => fail
  | f + 1, ends, minPrec => do
    let first ← pos
    let left ← unary f ends
    binaryRest f ends minPrec first left
termination_by structural n _ _ => n

def binaryRest : Nat → Bool → Nat → Nat → Node → Parse Node
  | 0, _, _, _, _ => fail
  | f + 1, ends, minPrec, first, left => do
    let t ← peek
    if (t.isWord "as" || t.isWord "satisfies") && !(ends && t.endsExpr) && 8 > minPrec then
      advance
      let ty ← if (← atWord "const") then do advance; pure [] else do pure [← typeExpr f false]
      let k := if t.text == "as" then Kind.asExpression else .satisfiesExpression
      binaryRest f ends minPrec first (← finish k first (left :: ty))
    else
      let ts ← window 4
      match binaryOperator ts with
      | some (op, prec, n) =>
        if prec > minPrec && !(ends && t.endsExpr) && (assignmentOperator ts).isNone then
          skip n
          -- `**` groups to the right, all others to the left
          let right ← binary f ends (if op == "**" then prec - 1 else prec)
          binaryRest f ends minPrec first
            (← finish .binaryExpression first [left.withRole .left, right.withRole .right])
        else pure left
      | none => pure left
termination_by structural n _ _ _ _ => n

def unary : Nat → Bool → Parse Node
  | 0, _ => fail
  | f + 1, ends => do
    let first ← pos
    let t ← peek
    if t.kind == .punct && ["!", "~", "-", "+"].contains t.text then
      advance
      let arg ← unary f ends
      finish .unaryExpression first [arg.withRole .argument]
    else if t.kind == .punct && (t.text == "++" || t.text == "--") then
      advance
      let arg ← unary f ends
      finish .updateExpression first [arg.withRole .argument]
    else if t.kind == .word && ["typeof", "void", "delete"].contains t.text &&
        !(← peekAt 1).isPunct "." && !(← peekAt 1).isPunct "=>" then
      advance
      let arg ← unary f ends
      finish .unaryExpression first [arg.withRole .argument]
    else if t.isWord "await" && (← peekAt 1).startsStatement && !(← peekAt 1).lineBefore &&
        -- a slash that was not read as a regular expression divides the name `await`
        !(← peekAt 1).isPunct "/" then
      advance
      let arg ← unary f ends
      finish .awaitExpression first [arg]
    else if t.isPunct "<" then
      let ty ← typeArguments f
      let arg ← unary f ends
      finish .typeAssertion first [ty, arg]
    else
      let e ← callMember f ends
      let t2 ← peek
      if (t2.isPunct "++" || t2.isPunct "--") && !t2.endsExpr then
        advance
        finish .updateExpression first [e.withRole .argument]
      else pure e
termination_by structural n _ => n

def callMember : Nat → Bool → Parse Node
  | 0, _ => fail
  | f + 1, ends => do
    let first ← pos
    let base ← primaryExpression f ends
    callMemberRest f ends first base
termination_by structural n _ => n

def callMemberRest : Nat → Bool → Nat → Node → Parse Node
  | 0, _, _, _ => fail
  | f + 1, ends, first, acc => do
    let t ← peek
    let next ← peekAt 1
    if (t.isPunct "." || t.isPunct "?.") &&
        (next.kind == .word || next.kind == .privateName) then
      advance
      let p ← leaf (if next.kind == .privateName then .privatePropertyIdentifier
        else .propertyIdentifier) (some .property)
      callMemberRest f ends first (← finish .memberExpression first [acc.withRole .object, p])
    else if t.isPunct "?." && next.isPunct "(" then
      advance
      let args ← arguments f
      callMemberRest f ends first
        (← finish .callExpression first [acc.withRole .function, args.withRole .arguments])
    else if (t.isPunct "[" || (t.isPunct "?." && next.isPunct "[")) then
      if t.isPunct "?." then advance
      advance
      let idx ← expressions f false
      expectPunct "]"
      callMemberRest f ends first
        (← finish .subscriptExpression first [acc.withRole .object, idx.withRole .index])
    else if t.isPunct "(" then
      let args ← arguments f
      callMemberRest f ends first
        (← finish .callExpression first [acc.withRole .function, args.withRole .arguments])
    else if t.isPunct backtickText then
      let tmpl ← templateString f
      callMemberRest f ends first
        (← finish .callExpression first [acc.withRole .function, tmpl.withRole .arguments])
    else if t.isPunct "!" && !(ends && t.endsExpr) && !(t.stop == next.start && next.isPunct "=") then
      advance
      callMemberRest f ends first (← finish .nonNullExpression first [acc])
    else if t.isPunct "<" then
      -- type arguments only when arguments follow them
      match ← attempt (do
          let args ← typeArguments f
          if (← atPunct "(") then
            let a ← arguments f
            pure (args, a)
          else fail) with
      | some (targs, args) =>
        callMemberRest f ends first
          (← finish .callExpression first
            [acc.withRole .function, targs.withRole .typeArguments, args.withRole .arguments])
      | none => pure acc
    else pure acc
termination_by structural n _ _ _ => n

def primaryExpression : Nat → Bool → Parse Node
  | 0, _ => fail
  | f + 1, _ => do
    let first ← pos
    let t ← peek
    match t.kind with
    | .number => leaf .number
    | .string => leaf .string
    | .regex => leaf .regex
    | .privateName => leaf .privatePropertyIdentifier
    | .word =>
      let w := t.text
      if w == "function" then functionExpression f
      else if w == "async" && (← peekAt 1).isWord "function" && !(← peekAt 1).lineBefore then
        functionExpression f
      else if w == "class" then classLike f .classExpression
      else if w == "new" then
        advance
        if (← atPunct ".") then
          advance
          let p ← leaf .propertyIdentifier
          finish .metaProperty first [p]
        else
          let callee ← newCallee f
          let targs ← if (← atPunct "<") then do
              match ← attempt (typeArguments f) with
              | some a => pure [a.withRole .typeArguments]
              | none => pure []
            else pure []
          let args ← if (← atPunct "(") then do pure [(← arguments f).withRole .arguments]
            else pure []
          finish .newExpression first (callee.withRole .function :: targs ++ args)
      else if w == "this" then leaf .this
      else if w == "super" then leaf .super
      else if w == "true" then leaf .trueLit
      else if w == "false" then leaf .falseLit
      else if w == "null" then leaf .nullLit
      else if w == "undefined" then leaf .undefinedLit
      else if w == "import" then leaf .importExpression
      -- `export` is also a name where no export can stand
      else if w == "export" then leaf .identifier
      else if t.isReserved then fail
      else if (← atKeywordOnly) && !nameKeywords.contains w then fail
      else leaf .identifier
    | .punct =>
      if t.text == "(" then
        advance
        let e ← expressions f false
        expectPunct ")"
        finish .parenthesizedExpression first [e]
      else if t.text == "[" then
        advance
        let es ← arrayElements f []
        finish .array first es
      else if t.text == openBrace then
        advance
        let ms ← objectLiteralMembers f []
        finish .object first ms
      else if t.text == backtickText then templateString f
      else fail
    | _ => fail
termination_by structural n _ => n

def newCallee : Nat → Parse Node
  | 0 => fail
  | f + 1 => do
    let first ← pos
    let base ← primaryExpression f false
    newCalleeRest f first base
termination_by structural n => n

def newCalleeRest : Nat → Nat → Node → Parse Node
  | 0, _, _ => fail
  | f + 1, first, acc => do
    if (← atPunct ".") && (← peekAt 1).kind == .word then
      advance
      let p ← leaf .propertyIdentifier (some .property)
      newCalleeRest f first (← finish .memberExpression first [acc.withRole .object, p])
    else if (← atPunct "[") then
      advance
      let idx ← expressions f false
      expectPunct "]"
      newCalleeRest f first
        (← finish .subscriptExpression first [acc.withRole .object, idx.withRole .index])
    else pure acc
termination_by structural n _ _ => n

def arguments : Nat → Parse Node
  | 0 => fail
  | f + 1 => do
    let first ← pos
    expectPunct "("
    let args ← argumentList f []
    finish .arguments first args
termination_by structural n => n

def argumentList : Nat → List Node → Parse (List Node)
  | 0, _ => fail
  | f + 1, acc => do
    if (← atPunct ")") then advance; pure acc.reverse
    else
      let first ← pos
      let a ← if (← atPunct "...") then do
          advance
          let e ← expression f false
          finish .spreadElement first [e]
        else expression f false
      if (← eatPunct ",") then argumentList f (a :: acc)
      else do expectPunct ")"; pure (a :: acc).reverse
termination_by structural n _ => n

def arrayElements : Nat → List Node → Parse (List Node)
  | 0, _ => fail
  | f + 1, acc => do
    if (← atPunct "]") then advance; pure acc.reverse
    else if (← atPunct ",") then advance; arrayElements f acc
    else
      let first ← pos
      let a ← if (← atPunct "...") then do
          advance
          let e ← expression f false
          finish .spreadElement first [e]
        else expression f false
      if (← eatPunct ",") then arrayElements f (a :: acc)
      else do expectPunct "]"; pure (a :: acc).reverse
termination_by structural n _ => n

def objectLiteralMembers : Nat → List Node → Parse (List Node)
  | 0, _ => fail
  | f + 1, acc => do
    if (← atPunct closeBrace) then advance; pure acc.reverse
    else
      let m ← objectLiteralMember f
      if (← eatPunct ",") then objectLiteralMembers f (m :: acc)
      else do expectPunct closeBrace; pure (m :: acc).reverse
termination_by structural n _ => n

def objectLiteralMember : Nat → Parse Node
  | 0 => fail
  | f + 1 => do
    let first ← pos
    let t ← peek
    let next ← peekAt 1
    if t.isPunct "..." then
      advance
      let e ← expression f false
      finish .spreadElement first [e]
    else if t.kind == .word && (next.isPunct "," || next.isPunct closeBrace) then
      leaf .shorthandPropertyIdentifier
    else if t.kind == .word && next.isPunct "=" then
      let id ← leaf .shorthandPropertyIdentifier
      advance
      let v ← expression f false
      finish .objectAssignmentPattern first [id.withRole .left, v.withRole .right]
    else
      if (t.isWord "get" || t.isWord "set" || t.isWord "async") && (← modifierAhead) then advance
      let _ ← eatPunct "*"
      let key ← propertyName f
      if (← atPunct ":") then
        advance
        let v ← expression f false
        finish .pair first [key.withRole .key, v.withRole .value]
      else
        let parts ← callSignatureParts f
        let body ← statementBlock f
        finish .methodDefinition first (key.withRole .name :: parts ++ [body.withRole .body])
termination_by structural n => n

def templateString : Nat → Parse Node
  | 0 => fail
  | f + 1 => do
    let first ← pos
    expectPunct backtickText
    let parts ← templateStringParts f []
    finish .templateString first parts
termination_by structural n => n

def templateStringParts : Nat → List Node → Parse (List Node)
  | 0, _ => fail
  | f + 1, acc => do
    let t ← peek
    if t.isPunct backtickText then advance; pure acc.reverse
    else if t.kind == .templateChars then
      let s ← leaf .stringFragment
      templateStringParts f (s :: acc)
    else if t.kind == .escape then
      let s ← leaf .escapeSequence
      templateStringParts f (s :: acc)
    else if t.inTemplate then
      -- an invalid escape, and the text after it, which was read as code
      if t.kind == .invalid then markError
      let s ← leaf .stringFragment
      templateStringParts f (s :: acc)
    else if t.isPunct "$\x7b" then
      let first ← pos
      advance
      let e ← expressions f false
      expectPunct closeBrace
      templateStringParts f ((← finish .templateSubstitution first [e]) :: acc)
    else fail
termination_by structural n _ => n

def arrowFunction : Nat → Bool → Parse Node
  | 0, _ => fail
  | f + 1, ends => do
    let first ← pos
    if (← atWord "async") && !(← peekAt 1).isPunct "=>" then advance
    let head ←
      if (← peek).isName then do pure [(← leaf .identifier (some .parameters))]
      else do
        let tps ← if (← atPunct "<") then do pure [(← typeParameters f).withRole .typeParameters]
          else pure []
        let ps ← formalParameters f
        let ret ← if (← atPunct ":") then do pure [(← returnColonType f false).withRole .returnType]
          else pure []
        pure (tps ++ ps.withRole .parameters :: ret)
    let arrowTok ← peek
    if !arrowTok.isPunct "=>" || arrowTok.lineBefore then fail
    advance
    let body ← if (← atPunct openBrace) then statementBlock f else expression f ends
    finish .arrowFunction first (head ++ [body.withRole .body])
termination_by structural n _ => n

def functionExpression : Nat → Parse Node
  | 0 => fail
  | f + 1 => do
    let first ← pos
    if (← atWord "async") then advance
    expectWord "function"
    let _ ← eatPunct "*"
    let name ← if (← peek).isName then do pure [(← leaf .identifier (some .name))]
      else pure []
    let parts ← callSignatureParts f
    let body ← statementBlock f
    finish .functionExpression first (name ++ parts ++ [body.withRole .body])
termination_by structural n => n

-- Statements

def statementList : Nat → Bool → List Node → Parse (List Node)
  | 0, _, _ => fail
  | f + 1, inBraces, acc => do
    let t ← peek
    if t.isEof then
      -- a block left open at the end of input is closed by a missing brace, unless the parse
      -- only just resumed there: the end of input is no place to resume inside a block
      if inBraces then
        if (← atResume) then fail
        markError
      pure acc.reverse
    else if inBraces && t.isPunct closeBrace then advance; pure acc.reverse
    else if t.startsStatement then
      let start ← pos
      if !(← get).trial then
        let unit := withStrictEnd true (statement f)
        match ← tryParse unit with
        | .ok s => statementList f inBraces (s :: acc)
        | .error e =>
          let semicolonOk (t : Token) : Bool :=
            (t.isEof || (Level.statements inBraces).accepts t) &&
              !(t.kind == .word && midStatementWords.contains t.text)
          -- what the next statement costs counts toward each way through this one
          let follow : Parse Unit := do
            let t ← peek
            if t.isEof || (inBraces && t.isPunct closeBrace) then pure ()
            else discard (statement f)
          match ← recover unit start e semicolonOk true (some follow) with
          | some s => statementList f inBraces (s :: acc)
          | none => recoverStatements f inBraces acc start e.pos
      else
        match ← tryParse (withStrictEnd false (statement f)) with
        | .ok s => statementList f inBraces (s :: acc)
        | .error e => recoverStatements f inBraces acc start e.pos
    else
      recoverStatements f inBraces acc (← pos) (← pos)
termination_by structural n _ _ => n

def recoverStatements : Nat → Bool → List Node → Nat → Nat → Parse (List Node)
  | 0, _, _, _, _ => fail
  | f + 1, inBraces, acc, start, at_ => do
    markError
    let t ← tokenAt at_
    let here := Level.statements inBraces
    if t.isEof then
      if inBraces then failAt at_
      else
        addCost (Recovery.rangeCost (← read) start at_ (at_ - start))
        seek start
        let errStart ← pos
        seek at_
        let err ← finish .error errStart []
        pure (err :: acc).reverse
    else if here.accepts t && at_ > start then
      addCost (Recovery.rangeCost (← read) start at_ (at_ - start))
      seek start
      let errStart ← pos
      seek at_
      let err ← finish .error errStart []
      statementList f inBraces (err :: acc)
    else if (← outerAccepts t) && !(here.accepts t) then failAt at_
    else recoverStatements f inBraces acc start (at_ + 1)
termination_by structural n _ _ _ _ => n

def statementBlock : Nat → Parse Node
  | 0 => fail
  | f + 1 => do
    let first ← pos
    expectPunct openBrace
    let ss ← withLevel (.statements true) (statementList f true [])
    finish .statementBlock first ss
termination_by structural n => n

def statement : Nat → Parse Node
  | 0 => fail
  | f + 1 => do
    let first ← pos
    let t ← peek
    let next ← peekAt 1
    if t.kind == .word && (← atNameOnly) then expressionStatement f
    else if t.kind == .word then
      let w := t.text
      if w == "import" && !(next.isPunct "(" || next.isPunct ".") then importStatement f
      else if w == "export" then
        if exportGoesOn next then exportStatement f else expressionStatement f
      else if w == "namespace" && (← declarationAhead) then moduleDeclaration f true
      else if (← declarationAhead) then declaration f
      else if w == "if" && next.isPunct "(" then ifStatement f
      else if (w == "for") && (next.isPunct "(" || next.isWord "await") then forStatement f
      else if w == "while" && next.isPunct "(" then
        advance
        let c ← parenthesized f
        let body ← statement f
        finish .whileStatement first [c.withRole .condition, body.withRole .body]
      else if w == "do" then
        advance
        let body ← statement f
        expectWord "while"
        let c ← parenthesized f
        -- the semicolon after the condition may be left out, line break or not
        if (← peek).isPunct ";" then advance
        finish .doStatement first [body.withRole .body, c.withRole .condition]
      else if w == "return" then
        advance
        let t2 ← peek
        if t2.isPunct ";" || t2.endsExpr || t2.lineBefore then
          semicolon true
          finish .returnStatement first []
        else
          let e ← expressions f true
          semicolon true
          finish .returnStatement first [e]
      else if w == "throw" then
        advance
        let e ← expressions f true
        semicolon true
        finish .throwStatement first [e]
      else if (w == "break" || w == "continue") then
        advance
        let label ← if (← peek).kind == .word && !(← peek).lineBefore then
            do pure [← leaf .statementIdentifier (some .label)]
          else pure []
        semicolon true
        finish (if w == "break" then .breakStatement else .continueStatement) first label
      else if w == "debugger" then
        advance
        semicolon true
        finish .debuggerStatement first []
      else if w == "try" && next.isPunct openBrace then tryStatement f
      else if w == "with" && next.isPunct "(" then
        advance
        let o ← parenthesized f
        let body ← statement f
        finish .withStatement first [o.withRole .object, body.withRole .body]
      else if w == "await" && next.isWord "using" && (← peekAt 2).isName &&
          !next.lineBefore && !(← peekAt 2).lineBefore then
        advance
        let d ← variableDeclaration f
        pure { d with start := t.start }
      -- `abstract` is no name: it only starts an abstract class
      else if w == "abstract" then fail
      else if w == "switch" && next.isPunct "(" then switchStatement f
      else if next.isPunct ":" && t.isName then
        let label ← leaf .statementIdentifier (some .label)
        advance
        let body ← statement f
        finish .labeledStatement first [label, body.withRole .body]
      else expressionStatement f
    else if t.isPunct openBrace then statementBlock f
    else if t.isPunct ";" then leaf .emptyStatement
    else if t.isPunct "@" then
      let decs ← decorators f []
      if (← atWord "export") then exportStatement f
      else
        let c ← classLike f .classDeclaration
        pure { c with start := (← tokenAt first).start, children := decs ++ c.children }
    else expressionStatement f
termination_by structural n => n

def expressionStatement : Nat → Parse Node
  | 0 => fail
  | f + 1 => do
    let first ← pos
    let e ← expressions f true
    semicolon true
    finish .expressionStatement first [e]
termination_by structural n => n

def parenthesized : Nat → Parse Node
  | 0 => fail
  | f + 1 => do
    let first ← pos
    expectPunct "("
    let e ← expressions f false
    expectPunct ")"
    finish .parenthesizedExpression first [e]
termination_by structural n => n

def ifStatement : Nat → Parse Node
  | 0 => fail
  | f + 1 => do
    let first ← pos
    expectWord "if"
    let c ← parenthesized f
    let yes ← statement f
    if (← atWord "else") then
      let ef ← pos
      advance
      let no ← statement f
      let els ← finish .elseClause ef [no]
      finish .ifStatement first [c.withRole .condition, yes.withRole .consequence,
        els.withRole .alternative]
    else finish .ifStatement first [c.withRole .condition, yes.withRole .consequence]
termination_by structural n => n

def forStatement : Nat → Parse Node
  | 0 => fail
  | f + 1 => do
    let first ← pos
    expectWord "for"
    if (← atWord "await") then advance
    expectPunct "("
    let init ←
      if (← atPunct ";") then pure []
      else if ((← atWord "const") || (← atWord "let") || (← atWord "var")) &&
          (← peekAt 1).startsPattern then do
        let df ← pos
        let kw ← peek
        advance
        let pat ← bindingPattern f
        let ty ← if (← atPunct ":") then do pure [(← colonType f false).withRole .type]
          else pure []
        let val ← if (← atPunct "=") then do advance; pure [(← expression f false).withRole .value]
          else pure []
        let d ← finish .variableDeclarator (df + 1) (pat.withRole .name :: ty ++ val)
        pure [← finish (if kw.text == "var" then .variableDeclaration else .lexicalDeclaration)
          df [d]]
      else do pure [← expressions f false]
    if (← atWord "of") || (← atWord "in") then
      advance
      let v ← expressions f false
      expectPunct ")"
      let body ← statement f
      finish .forInStatement first (init ++ [v.withRole .right, body.withRole .body])
    else
      expectPunct ";"
      let c ← if (← atPunct ";") then pure [] else do pure [← expressions f false]
      expectPunct ";"
      let u ← if (← atPunct ")") then pure [] else do pure [← expressions f false]
      expectPunct ")"
      let body ← statement f
      finish .forStatement first (init ++ c ++ u ++ [body.withRole .body])
termination_by structural n => n

def tryStatement : Nat → Parse Node
  | 0 => fail
  | f + 1 => do
    let first ← pos
    expectWord "try"
    let body ← statementBlock f
    let c ← if (← atWord "catch") then do
        let cf ← pos
        advance
        let param ← if (← atPunct "(") then do
            advance
            let p ← bindingPattern f
            let ty ← if (← atPunct ":") then do pure [← colonType f false] else pure []
            expectPunct ")"
            pure (p.withRole .parameters :: ty)
          else pure []
        let b ← statementBlock f
        pure [← finish .catchClause cf (param ++ [b.withRole .body])]
      else pure []
    let fin ← if (← atWord "finally") then do
        let ff ← pos
        advance
        let b ← statementBlock f
        pure [← finish .finallyClause ff [b.withRole .body]]
      else pure []
    finish .tryStatement first (body.withRole .body :: c ++ fin)
termination_by structural n => n

def switchStatement : Nat → Parse Node
  | 0 => fail
  | f + 1 => do
    let first ← pos
    expectWord "switch"
    let v ← parenthesized f
    let bf ← pos
    expectPunct openBrace
    let cases ← switchCases f []
    let body ← finish .switchBody bf cases
    finish .switchStatement first [v.withRole .value, body.withRole .body]
termination_by structural n => n

def switchCases : Nat → List Node → Parse (List Node)
  | 0, _ => fail
  | f + 1, acc => do
    if (← atPunct closeBrace) then advance; pure acc.reverse
    else
      let first ← pos
      let head ← if (← atWord "case") then do
          advance
          let e ← expressions f false
          pure (some e)
        else do expectWord "default"; pure none
      expectPunct ":"
      let body ← caseBody f []
      let c ← match head with
        | some e => finish .switchCase first (e.withRole .value :: body)
        | none => finish .switchDefault first body
      switchCases f (c :: acc)
termination_by structural n _ => n

def caseBody : Nat → List Node → Parse (List Node)
  | 0, _ => fail
  | f + 1, acc => do
    if (← atWord "case") || (← atWord "default") || (← atPunct closeBrace) || (← peek).isEof then
      pure acc.reverse
    else
      let s ← statement f
      caseBody f (s :: acc)
termination_by structural n _ => n

def declaration : Nat → Parse Node
  | 0 => fail
  | f + 1 => do
    let first ← pos
    let t ← peek
    let next ← peekAt 1
    let w := t.text
    if w == "type" then typeAlias f
    else if w == "interface" then interfaceDeclaration f
    else if w == "enum" || (w == "const" && next.isWord "enum") then enumDeclaration f
    else if w == "namespace" || w == "module" then moduleDeclaration f false
    else if w == "abstract" && next.isWord "class" then classLike f .abstractClassDeclaration
    else if w == "class" then classLike f .classDeclaration
    else if w == "function" || w == "async" then functionDeclaration f
    else if w == "const" || w == "let" || w == "var" || w == "using" then variableDeclaration f
    else if w == "declare" then
      advance
      if (← atWord "global") && (← peekAt 1).isPunct openBrace then
        advance
        let b ← statementBlock f
        finish .ambientDeclaration first [b]
      else if (← atWord "module") && (← peekAt 1).isPunct "." then
        advance; advance
        let p ← leaf .propertyIdentifier
        let ann ← colonType f true
        semicolon false
        finish .ambientDeclaration first [p, ann]
      else
        let d ← declaration f
        finish .ambientDeclaration first [d]
    else if w == "global" && next.isPunct openBrace then moduleDeclaration f false
    else if w == "import" then importStatement f
    else fail
termination_by structural n => n

def typeAlias : Nat → Parse Node
  | 0 => fail
  | f + 1 => do
    let first ← pos
    expectWord "type"
    if !(← atName) then fail
    let skipped ← aliasNameRecovery
    let name ← nameLeaf .typeIdentifier (some .name)
    let tps ← if (← atPunct "<") then do pure [(← typeParameters f).withRole .typeParameters]
      else pure []
    expectPunct "="
    let value ← typeExpr f true
    semicolon false
    finish .typeAliasDeclaration first (skipped ++ name :: tps ++ [value.withRole .value])
termination_by structural n => n

def interfaceDeclaration : Nat → Parse Node
  | 0 => fail
  | f + 1 => do
    let first ← pos
    expectWord "interface"
    let name ← nameLeaf .typeIdentifier (some .name)
    let tps ← if (← atPunct "<") then do pure [(← typeParameters f).withRole .typeParameters]
      else pure []
    let ext ← if (← atWord "extends") then do
        let ef ← pos
        advance
        let ts ← heritageTypes f []
        pure [← finish .extendsTypeClause ef ts]
      else pure []
    let bf ← openMembers f
    let members ← withLevel .members (memberList f false false [])
    let body ← finish .interfaceBody bf members (some .body)
    finish .interfaceDeclaration first (name :: tps ++ ext ++ [body])
termination_by structural n => n

def heritageTypes : Nat → List Node → Parse (List Node)
  | 0, _ => fail
  | f + 1, acc => do
    let ty ← typeName f
    if (← eatPunct ",") then heritageTypes f (ty :: acc) else pure (ty :: acc).reverse
termination_by structural n _ => n

def enumDeclaration : Nat → Parse Node
  | 0 => fail
  | f + 1 => do
    let first ← pos
    if (← atWord "const") then advance
    expectWord "enum"
    let name ← nameLeaf .identifier (some .name)
    let bf ← pos
    expectPunct openBrace
    let members ← enumMembers f []
    let body ← finish .enumBody bf members (some .body)
    finish .enumDeclaration first [name, body]
termination_by structural n => n

def enumMembers : Nat → List Node → Parse (List Node)
  | 0, _ => fail
  | f + 1, acc => do
    if (← atPunct closeBrace) then advance; pure acc.reverse
    else
      let first ← pos
      let name ← propertyName f
      let m ← if (← atPunct "=") then do
          advance
          let v ← expression f false
          finish .enumAssignment first [name.withRole .name, v.withRole .value]
        else pure name
      if (← eatPunct ",") then enumMembers f (m :: acc)
      else do expectPunct closeBrace; pure (m :: acc).reverse
termination_by structural n _ => n

def moduleDeclaration : Nat → Bool → Parse Node
  | 0, _ => fail
  | f + 1, bare => do
    let first ← pos
    let kw ← peek
    advance
    let name ←
      if kw.isWord "global" then pure []
      else if (← peek).kind == .string then do pure [← leaf .string (some .name)]
      else do
        let nf ← pos
        let id ← leaf .identifier
        if (← atPunct ".") then do pure [(← dottedName f nf id).withRole .name]
        else pure [id.withRole .name]
    let body ← if (← atPunct openBrace) && !(bare && (← peek).lineBefore) then
        do pure [(← statementBlock f).withRole .body]
      else pure []
    finish (if kw.isWord "namespace" then .internalModule else .module) first (name ++ body)
termination_by structural n _ => n

def dottedName : Nat → Nat → Node → Parse Node
  | 0, _, _ => fail
  | f + 1, first, acc => do
    if (← atPunct ".") then
      advance
      if !(← atName) then fail
      let p ← leaf .propertyIdentifier (some .property)
      dottedName f first (← finish .nestedIdentifier first [acc.withRole .object, p])
    else pure acc
termination_by structural n _ _ => n

def functionDeclaration : Nat → Parse Node
  | 0 => fail
  | f + 1 => do
    let first ← pos
    if (← atWord "async") then advance
    expectWord "function"
    let gen ← eatPunct "*"
    let name ← nameLeaf .identifier (some .name)
    let parts ← callSignatureParts f
    if (← atPunct openBrace) then
      let body ← statementBlock f
      finish (if gen then .generatorFunctionDeclaration else .functionDeclaration) first
        (name :: parts ++ [body.withRole .body])
    else
      semicolon false
      finish .functionSignature first (name :: parts)
termination_by structural n => n

def classLike : Nat → Kind → Parse Node
  | 0, _ => fail
  | f + 1, kind => do
    let first ← pos
    if (← atWord "abstract") then advance
    expectWord "class"
    let name ← if (← peek).isName && !(← atWord "implements") then
        do pure [← leaf .typeIdentifier (some .name)]
      else pure []
    let tps ← if (← atPunct "<") then do pure [(← typeParameters f).withRole .typeParameters]
      else pure []
    let hf ← pos
    let ext ← if (← atWord "extends") then do
        let ef ← pos
        advance
        let v ← callMember f false
        let targs ← if (← atPunct "<") then do pure [(← typeArguments f).withRole .typeArguments]
          else pure []
        pure [← finish .extendsClause ef (v.withRole .value :: targs)]
      else pure []
    let impl ← if (← atWord "implements") then do
        let iff ← pos
        advance
        let ts ← heritageTypes f []
        pure [← finish .implementsClause iff ts]
      else pure []
    let heritage ← if ext.isEmpty && impl.isEmpty then pure []
      else do pure [← finish .classHeritage hf (ext ++ impl)]
    let bf ← pos
    expectPunct openBrace
    let members ← withLevel .members (memberList f true false [])
    let body ← finish .classBody bf members (some .body)
    finish kind first (name ++ tps ++ heritage ++ [body])
termination_by structural n _ => n

def classMember : Nat → Parse Node
  | 0 => fail
  | f + 1 => do
    let first ← pos
    let decs ← decorators f []
    if (← atWord "static") && (← peekAt 1).isPunct openBrace then
      advance
      let b ← statementBlock f
      finish .classStaticBlock first [b.withRole .body]
    else if (← atPunct "[") && (← indexSignatureAhead) then indexSignature f first []
    else
      let abstract_ ← pure ((← window 6).any fun t => t.isWord "abstract")
      let mods ← modifiers f true []
      if (← atWord "readonly") && (← peekAt 1).isPunct "[" then advance
      if (← atPunct "[") && (← indexSignatureAhead) then indexSignature f first (decs ++ mods)
      else classMemberRest f first (decs ++ mods) abstract_
termination_by structural n => n

def classMemberRest : Nat → Nat → List Node → Bool → Parse Node
  | 0, _, _, _ => fail
  | f + 1, first, mods, abstract_ => do
    if ((← atWord "get") || (← atWord "set")) && (← modifierAhead) then advance
    let _ ← eatPunct "*"
    let name ← propertyName f
    let _ ← eatPunct "?"
    let _ ← if (← atPunct "!") then eatPunct "!" else pure false
    if (← atPunct "(") || (← atPunct "<") then
      let parts ← callSignatureParts f
      if (← atPunct openBrace) then
        let body ← statementBlock f
        finish .methodDefinition first (mods ++ name.withRole .name :: parts ++
          [body.withRole .body])
      else
        finish (if abstract_ then .abstractMethodSignature else .methodSignature) first
          (mods ++ name.withRole .name :: parts)
    else
      let ty ← if (← atPunct ":") then do pure [(← colonType f true).withRole .type]
        else pure []
      let val ← if (← atPunct "=") then do advance; pure [(← expression f true).withRole .value]
        else pure []
      finish .publicFieldDefinition first (mods ++ name.withRole .name :: ty ++ val)
termination_by structural n _ _ _ => n

def variableDeclaration : Nat → Parse Node
  | 0 => fail
  | f + 1 => do
    let first ← pos
    let kw ← peek
    advance
    let (ds, lastHasValue) ← declarators f [] false
    semicolon lastHasValue
    finish (if kw.isWord "var" then .variableDeclaration else .lexicalDeclaration) first ds
termination_by structural n => n

def declarators : Nat → List Node → Bool → Parse (List Node × Bool)
  | 0, _, _ => fail
  | f + 1, acc, _ => do
    let first ← pos
    let pat ← bindingPattern f
    let _ ← eatPunct "!"
    let ty ← if (← atPunct ":") then do pure [(← colonType f true).withRole .type]
      else pure []
    let val ← if (← atPunct "=") then do advance; pure [(← expression f true).withRole .value]
      else pure []
    let d ← finish .variableDeclarator first (pat.withRole .name :: ty ++ val)
    if (← eatPunct ",") then declarators f (d :: acc) !val.isEmpty
    else pure ((d :: acc).reverse, !val.isEmpty)
termination_by structural n _ _ => n

def importStatement : Nat → Parse Node
  | 0 => fail
  | f + 1 => do
    let first ← pos
    expectWord "import"
    if ((← atWord "type") || (← atWord "typeof")) &&
        ((← peekAt 1).kind == .word || (← peekAt 1).isPunct openBrace || (← peekAt 1).isPunct "*") &&
        !(← peekAt 1).isWord "from" && !(← peekAt 1).isPunct "=" then
      advance
    let t ← peek
    if t.kind == .string then
      let src ← leaf .string (some .source)
      let attrs ← importAttributes f
      semicolon false
      finish .importStatement first (src :: attrs)
    else if t.kind == .word && (← peekAt 1).isPunct "=" then
      let name ← leaf .identifier (some .name)
      advance
      if (← atWord "require") && (← peekAt 1).isPunct "(" then
        advance; advance
        let src ← leaf .string (some .source)
        expectPunct ")"
        semicolon false
        let clause ← finish .importRequireClause (first + 1) [name, src]
        finish .importStatement first [clause]
      else
        let vf ← pos
        let id ← leaf .identifier
        let v ← dottedName f vf id
        semicolon false
        finish .importAlias first [name, v.withRole .value]
    else
      let cf ← pos
      let parts ← importClauseParts f []
      let clause ← finish .importClause cf parts
      expectWord "from"
      let src ← leaf .string (some .source)
      let attrs ← importAttributes f
      semicolon false
      finish .importStatement first (clause :: src :: attrs)
termination_by structural n => n

def importAttributes : Nat → Parse (List Node)
  | 0 => fail
  | f + 1 => do
    if ((← atWord "with") || (← atWord "assert")) && (← peekAt 1).isPunct openBrace &&
        !(← peek).lineBefore then
      let first ← pos
      advance
      let o ← primaryExpression f false
      pure [← finish .importAttribute first [o]]
    else pure []
termination_by structural n => n

def importClauseParts : Nat → List Node → Parse (List Node)
  | 0, _ => fail
  | f + 1, acc => do
    let first ← pos
    let part ←
      if (← atPunct "*") then do
        advance
        expectWord "as"
        let id ← leaf .identifier
        finish .namespaceImport first [id]
      else if (← atPunct openBrace) then do
        advance
        let specs ← specifiers f .importSpecifier []
        finish .namedImports first specs
      else if (← peek).kind == .word then leaf .identifier
      else fail
    if (← eatPunct ",") then importClauseParts f (part :: acc) else pure (part :: acc).reverse
termination_by structural n _ => n

def specifiers : Nat → Kind → List Node → Parse (List Node)
  | 0, _, _ => fail
  | f + 1, kind, acc => do
    if (← atPunct closeBrace) then advance; pure acc.reverse
    else
      let first ← pos
      if ((← atWord "type") || (← atWord "typeof")) && ((← peekAt 1).kind == .word ||
          (← peekAt 1).kind == .string) && !(← peekAt 1).isWord "as" then advance
      let name ← if (← peek).kind == .string then leaf .string (some .name)
        else leaf .identifier (some .name)
      let aliasName ← if (← atWord "as") then do
          advance
          pure [← if (← peek).kind == .string then leaf .string (some .aliasName)
            else leaf .identifier (some .aliasName)]
        else pure []
      let s ← finish kind first (name :: aliasName)
      if (← eatPunct ",") then specifiers f kind (s :: acc)
      else do expectPunct closeBrace; pure (s :: acc).reverse
termination_by structural n _ _ => n

def exportStatement : Nat → Parse Node
  | 0 => fail
  | f + 1 => do
    let first ← pos
    let decs ← decorators f []
    expectWord "export"
    let t ← peek
    let next ← peekAt 1
    if t.isPunct "*" then
      advance
      let ns ← if (← atWord "as") then do
          let nf ← pos
          advance
          let id ← if (← peek).kind == .string then leaf .string else leaf .identifier
          pure [← finish .namespaceExport nf [id]]
        else pure []
      expectWord "from"
      let src ← leaf .string (some .source)
      let attrs ← importAttributes f
      semicolon false
      finish .exportStatement first (ns ++ src :: attrs)
    else if t.isPunct openBrace || (t.isWord "type" && next.isPunct openBrace) then
      if t.isWord "type" then advance
      let cf ← pos
      advance
      let specs ← specifiers f .exportSpecifier []
      let clause ← finish .exportClause cf specs
      let src ← if (← atWord "from") then do
          advance
          pure [← leaf .string (some .source)]
        else pure []
      semicolon false
      finish .exportStatement first (clause :: src)
    else if t.isPunct "=" then
      advance
      let e ← expressions f true
      semicolon true
      finish .exportStatement first [e.withRole .value]
    else if t.isWord "as" && next.isWord "namespace" then
      advance; advance
      let id ← leaf .identifier
      semicolon false
      finish .exportStatement first [id]
    else if t.isWord "default" then
      advance
      let t2 ← peek
      let n2 ← peekAt 1
      if t2.isWord "function" || (t2.isWord "async" && n2.isWord "function") ||
          t2.isWord "class" || (t2.isWord "abstract" && n2.isWord "class") ||
          (t2.isWord "interface" && n2.kind == .word) then
        let d ←
          if t2.isWord "function" || t2.isWord "async" then do
            match ← attempt (functionDeclaration f) with
            | some d => pure d
            | none => functionExpression f
          else if t2.isWord "interface" then interfaceDeclaration f
          else classLike f (if t2.isWord "abstract" then .abstractClassDeclaration
            else .classDeclaration)
        finish .exportStatement first (decs ++ [d.withRole .declaration])
      else if (← declarationAhead) then
        let d ← declaration f
        finish .exportStatement first (decs ++ [d.withRole .declaration])
      else
        let e ← expressions f true
        semicolon true
        finish .exportStatement first (decs ++ [e.withRole .value])
    else
      let d ← declaration f
      finish .exportStatement first (decs ++ [d.withRole .declaration])
termination_by structural n => n

end

end TypedJson.Syntax
