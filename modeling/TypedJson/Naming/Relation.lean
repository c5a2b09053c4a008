import TypedJson.Naming
import TypedJson.Text.Word
/-!
# Relation wrapper names

Some generated names embed a relation field as well as the entity
(`PostCreateWithoutAuthorInput`), so they cannot be enumerated from the entity alone. They are
recognised by shape instead: an entity name made of word characters, followed by a suffix of a
fixed form. A suffix word can also end an entity name (`WishList` + `RelationFilter`), so every
split is offered, shortest entity first, and the caller picks one that names an entity.
-/
namespace TypedJson.Naming

open Text

inductive RelationShape where
  | withoutRelation
  | createManyRelation
  | relationFilter
  | relationAggregateOrder
deriving DecidableEq, Repr, Inhabited

def allWord (cs : List Char) : Bool := cs.all isWordChar

def wordsThen (suf : String) (cs : List Char) : Bool :=
  match stripSuffix? suf.toList cs with
  | some w => !w.isEmpty && allWord w
  | none => false

def after (pre : String) (cs : List Char) : Option (List Char) := stripPrefix? pre.toList cs

def withoutModifiers : List String :=
  ["", "OrConnect", "NestedMany", "NestedOne", "Many", "ManyWithWhere", "One", "OneRequired",
   "ToOneWithWhere", "WithWhereUnique"]

def isWithoutSuffix (cs : List Char) : Bool :=
  let starts := cs :: (after "Unchecked" cs).toList
  starts.any fun r =>
    ["Create", "Update", "Upsert"].any fun verb =>
      match after verb r with
      | none => false
      | some r => withoutModifiers.any fun m =>
        match after (m ++ "Without") r with
        | some t => wordsThen "Input" t
        | none => false

def isCreateManySuffix (cs : List Char) : Bool :=
  match after "CreateMany" cs with
  | some t => wordsThen "Input" t || wordsThen "InputEnvelope" t
  | none => false

def relationFilterSuffixes : List String :=
  ["RelationFilter", "ScalarRelationFilter", "ListRelationFilter", "ListScalarRelationFilter",
   "NullableRelationFilter", "NullableScalarRelationFilter"]

namespace RelationShape

def all : List RelationShape :=
  [withoutRelation, createManyRelation, relationFilter, relationAggregateOrder]

def name : RelationShape → String
  | withoutRelation => "without-relation"
  | createManyRelation => "create-many-relation"
  | relationFilter => "relation-filter"
  | relationAggregateOrder => "relation-aggregate-order"

def matchesSuffix : RelationShape → List Char → Bool
  | withoutRelation, cs => isWithoutSuffix cs
  | createManyRelation, cs => isCreateManySuffix cs
  | relationFilter, cs => relationFilterSuffixes.any (·.toList == cs)
  | relationAggregateOrder, cs => cs == "OrderByRelationAggregateInput".toList

end RelationShape

def splitsBy (isSuffix : List Char → Bool) (aliasName : String) : List (List Char × List Char) :=
  let cs := aliasName.toList
  if !allWord cs then []
  else
    ((List.range cs.length).filter (0 < ·)).filterMap fun i =>
      if isSuffix (cs.drop i) then some (cs.take i, cs.drop i) else none

def RelationShape.bases (shape : RelationShape) (aliasName : String) : List String :=
  (splitsBy shape.matchesSuffix aliasName).map fun p => String.ofList p.1

def listField? (cs : List Char) : Option (List Char) := do
  let r ← (after "Create" cs).orElse fun _ => after "Update" cs
  let field ← stripSuffix? "Input".toList r
  match field with
  | c :: rest => if 'a' ≤ c && c ≤ 'z' && allWord rest then some field else none
  | [] => none

def listFieldSplits (aliasName : String) : List (String × String) :=
  (splitsBy (fun cs => (listField? cs).isSome) aliasName).filterMap fun (base, rest) =>
    (listField? rest).map fun f => (String.ofList base, String.ofList f)

end TypedJson.Naming
