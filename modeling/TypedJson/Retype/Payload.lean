import TypedJson.Retype.Blob
import TypedJson.Retype.Classify
/-!
# Payload aliases

A payload alias (`$UserPayload`) describes an entity with its relations:

`{ name: "User"; objects: { posts: $PostPayload[] }; scalars: { id: string; settings: JsonValue }; composites: {} }`

`scalars` holds the entity's own fields (an object type, possibly inside a generic argument);
`objects` and `composites` hold relations, whose inline object types belong to other
entities. An inline relation shape belongs to the entity its `name` member names, or else to
the entity of the first type name beside it that classifies; shapes that are payloads
themselves are retyped the same way, recursively.
-/
namespace TypedJson

open Syntax

def relationMembers : List String := ["objects", "composites"]

def resolveNested (c : Catalog) (source : String) (nested relationType : Node) :
    Except Error (Option Entity) := do
  match (objectProperty? nested "name" source).bind (·.stringLiteral? source) with
  | some name => pure (c.entity? name)
  | none =>
    for reference in referencedNames source relationType do
      match ← classify c reference true with
      | .payload e | .object e _ | .listField e _ => return some e
      | .noOp => return none
      | .notCandidate | .unresolved => pure ()
    pure none

mutual

def retypePayload (c : Catalog) (source : String) :
    Nat → String → Node → Entity → Scheduling Nat
  | 0, _, _, _ => pure 0
  | fuel + 1, aliasName, payload, entity => do
    let scalars? := ((objectProperty? payload "scalars" source).bind (·.type?)).bind
      fun ty => (nestedObjects ty).head?
    let some scalars := scalars? | throw (.missingScalars aliasName)
    let mut n ← modifyGet fun patch => (retypeObject scalars entity source patch).swap
    for member in relationMembers do
      let some relations := (objectProperty? payload member source).bind (·.type?) | continue
      if relations.kind != .objectType then continue
      for relation in objectProperties relations source do
        let some ty := relation.type? | continue
        for nested in nestedObjects ty do
          let some related ← liftExcept (resolveNested c source nested ty) | continue
          let label := aliasName ++ "." ++ member ++ "." ++ relation.name
          n := n + (← retypeEntityObject c source fuel label nested related)
    pure n

def retypeEntityObject (c : Catalog) (source : String) :
    Nat → String → Node → Entity → Scheduling Nat
  | 0, _, _, _ => pure 0
  | fuel + 1, name, obj, entity =>
    if (objectProperty? obj "scalars" source).isSome then
      retypePayload c source fuel name obj entity
    else modifyGet fun patch => (retypeObject obj entity source patch).swap

end

end TypedJson
