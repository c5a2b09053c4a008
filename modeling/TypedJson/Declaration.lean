import TypedJson.Syntax.Parse
import TypedJson.Error
/-!
# Declarations of a client module

Typed views over the syntax tree of a declaration module: the walk over its type aliases (those
at the top and those inside the client namespace), the object types on their right-hand sides
with their properties, the object types nested in a type, and the type names a type refers to.
The tree is only read; edits go through byte spans.
-/
namespace TypedJson

open Syntax

def clientNamespace : String := "Prisma"

namespace Syntax.Node

def text (n : Node) (source : String) : String :=
  String.Pos.Raw.extract source ⟨n.start⟩ ⟨n.stop⟩

mutual

def height : Node → Nat
  | ⟨_, _, _, _, children⟩ => heightList children + 1

def heightList : List Node → Nat
  | [] => 0
  | c :: cs => max (height c) (heightList cs)

end

end Syntax.Node

def unquote (text : String) : String :=
  let strip (q : Char) : Option String :=
    match text.toList with
    | c :: rest@(_ :: _) =>
      if c == q && rest.getLast? == some q then some (String.ofList rest.dropLast) else none
    | _ => none
  (strip '"').getD ((strip '\'').getD text)

structure TypeAlias where
  name : String
  node : Node
  value : Node
deriving Repr, Inhabited

namespace TypeAlias

def ofNode (n : Node) (source : String) : Option TypeAlias := do
  let name ← n.field? .name
  let value ← n.field? .value
  pure ⟨name.text source, n, value⟩

def object? (a : TypeAlias) : Option Node :=
  if a.value.kind == .objectType then some a.value else none

end TypeAlias

structure Property where
  name : String
  type? : Option Node
deriving Repr, Inhabited

namespace Property

def ofNode (n : Node) (source : String) : Option Property := do
  let name ← n.field? .name
  pure ⟨unquote (name.text source), (n.field? .type).bind Node.firstChild?⟩

def stringLiteral? (p : Property) (source : String) : Option String := do
  let ty ← p.type?
  if ty.kind == .literalType then some (unquote (ty.text source)) else none

end Property

def objectProperties (obj : Node) (source : String) : List Property :=
  (obj.children.filter (·.kind == .propertySignature)).filterMap (Property.ofNode · source)

def objectProperty? (obj : Node) (name : String) (source : String) : Option Property :=
  (objectProperties obj source).find? (·.name == name)

mutual

def nestedObjects : Node → List Node
  | n@⟨kind, _, _, _, children⟩ =>
    if kind == .objectType then [n] else nestedObjectsList children

def nestedObjectsList : List Node → List Node
  | [] => []
  | c :: cs => nestedObjects c ++ nestedObjectsList cs

end

mutual

def referencedNames (source : String) : Node → List String
  | n@⟨kind, _, _, _, children⟩ =>
    if kind == .objectType then []
    else if kind == .typeIdentifier then [n.text source]
    else if kind == .nestedTypeIdentifier then
      ((n.field? .name).map (·.text source)).toList
    else referencedNamesList source children

def referencedNamesList (source : String) : List Node → List String
  | [] => []
  | c :: cs => referencedNames source c ++ referencedNamesList source cs

end

def unwrapDeclaration : Nat → Node → Option Node
  | 0, _ => none
  | fuel + 1, n =>
    match n.kind with
    | .exportStatement => (n.field? .declaration).bind (unwrapDeclaration fuel)
    | .ambientDeclaration => n.firstChild?.bind (unwrapDeclaration fuel)
    | .expressionStatement => n.children.find? (·.kind == .internalModule)
    | _ => some n

structure Walk where
  aliases : List TypeAlias := []
  fault : Option Error := none
deriving Repr, Inhabited

def walkStatements (enter : String → Bool) (source : String) :
    (depth : Nat) → List Node → Walk → Walk
  | _, [], acc => acc
  | depth, s :: rest, acc =>
    match unwrapDeclaration s.height s with
    | none => walkStatements enter source depth rest acc
    | some decl =>
      if decl.kind == .typeAliasDeclaration then
        let acc := match TypeAlias.ofNode decl source with
          | some a => { acc with aliases := a :: acc.aliases }
          | none => acc
        walkStatements enter source depth rest acc
      else if decl.kind == .internalModule || decl.kind == .module then
        match decl.field? .name with
        | some name =>
          if enter (name.text source) then
            match (decl.field? .body).filter (fun b => !b.children.isEmpty), depth with
            | none, _ => { acc with fault := some .emptyNamespace }
            | some body, d + 1 =>
              let inner := walkStatements enter source d body.children acc
              if inner.fault.isSome then inner else walkStatements enter source (d + 1) rest inner
            | some _, 0 => walkStatements enter source 0 rest acc
          else walkStatements enter source depth rest acc
        | none => walkStatements enter source depth rest acc
      else walkStatements enter source depth rest acc
termination_by depth stmts => (depth, stmts)

def walkModuleWith (enter : String → Bool) (tree : Tree) (source : String) : Walk :=
  let w := walkStatements enter source tree.root.height tree.root.children {}
  { w with aliases := w.aliases.reverse }

def walkModule (tree : Tree) (source : String) : Walk :=
  walkModuleWith (· == clientNamespace) tree source

end TypedJson
