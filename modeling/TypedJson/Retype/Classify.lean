import TypedJson.Catalog
import TypedJson.Naming.Relation
/-!
# Classifying type aliases

Every type alias of a module is classified by its name against the catalog. A direct name wins
over everything else; names made from an untagged entity are no-ops; a scalar-list wrapper
names one list field; otherwise the relation shapes are tried in order, each with every split
of the name, and a known entity wins over a no-op. A shape that matches but whose every base is
unknown is a fault of the declaration.
-/
namespace TypedJson

inductive Resolution where
  | direct
  | fallback (shape : Naming.RelationShape)
deriving DecidableEq, Repr, Inhabited

inductive Disposition where
  | notCandidate
  | noOp
  | unresolved
  | payload (entity : Entity)
  | object (entity : Entity) (resolution : Resolution)
  | listField (entity : Entity) (field : Field)
deriving DecidableEq, Repr, Inhabited

namespace Classify

def listFields (c : Catalog) (seenNoOp : Bool) :
    List (String × String) → Option Disposition × Bool
  | [] => (none, seenNoOp)
  | (base, field) :: rest =>
    let seenNoOp := seenNoOp || c.isNoOp base
    match c.entity? base with
    | none => listFields c seenNoOp rest
    | some entity =>
      match entity.fields.find? (·.name == field) with
      | none => listFields c seenNoOp rest
      | some f => (some (if f.replacement.isSome then .listField entity f else .noOp), seenNoOp)

def shapeBases (c : Catalog) (shape : Naming.RelationShape) (seenNoOp : Bool)
    (shortest : Option String) : List String → Option Disposition × Bool × Option String
  | [] => (none, seenNoOp, shortest)
  | base :: rest =>
    match c.entity? base with
    | some entity => (some (.object entity (.fallback shape)), seenNoOp, shortest)
    | none => shapeBases c shape (seenNoOp || c.isNoOp base) (shortest.orElse fun _ => some base)
        rest

def shapes (c : Catalog) (aliasName : String) (seenNoOp : Bool) :
    List Naming.RelationShape → Except Error Disposition
  | [] => pure .unresolved
  | shape :: rest =>
    match shapeBases c shape seenNoOp none (shape.bases aliasName) with
    | (some d, _, _) => pure d
    | (none, seenNoOp, shortest) =>
      if seenNoOp then pure .noOp
      else match shortest with
        | some base => throw (.unknownRelationBase aliasName base shape.name)
        | none => shapes c aliasName seenNoOp rest

end Classify

def classify (c : Catalog) (aliasName : String) (isObject : Bool) : Except Error Disposition :=
  if !isObject then pure .notCandidate
  else if c.isNoOp aliasName then pure .noOp
  else match c.entityForAlias? aliasName with
    | some entity =>
      pure (if aliasName == Naming.payloadName entity.name then .payload entity
        else .object entity .direct)
    | none =>
      if (Naming.templateBases aliasName).any c.isNoOp then pure .noOp
      else match Classify.listFields c false (Naming.listFieldSplits aliasName) with
        | (some d, _) => pure d
        | (none, seenNoOp) =>
          if seenNoOp then pure .noOp
          else Classify.shapes c aliasName false Naming.RelationShape.all

end TypedJson
