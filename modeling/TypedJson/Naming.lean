import TypedJson.Text.Affix
/-!
# Generated alias names

The client generator names the declarations it emits for each model and composite type by a
fixed list of templates, `%` standing for the entity's name. Direct names are enumerated from
the templates; an alias is mapped back to the entity names it could have been made from by
taking a template's prefix and suffix off it.
-/
namespace TypedJson.Naming

open Text

def aliasTemplates : List String := [
  "%",
  "$%Payload",
  -- output shapes
  "%GroupByOutputType",
  "%CountAggregateOutputType",
  "%MinAggregateOutputType",
  "%MaxAggregateOutputType",
  "%AvgAggregateOutputType",
  "%SumAggregateOutputType",
  "%CountOutputType",
  -- filters and ordering
  "%WhereInput",
  "%WhereUniqueInput",
  "%ScalarWhereInput",
  "%ScalarWhereWithAggregatesInput",
  "%OrderByWithRelationInput",
  "%OrderByWithRelationAndSearchRelevanceInput",
  "%OrderByWithAggregationInput",
  -- create and update inputs
  "%CreateInput",
  "%UncheckedCreateInput",
  "%CreateManyInput",
  "%UpdateInput",
  "%UncheckedUpdateInput",
  "%UpdateManyMutationInput",
  "%UncheckedUpdateManyInput",
  -- composite type inputs
  "%ObjectEqualityInput",
  "%CreateEnvelopeInput",
  "%UpdateEnvelopeInput",
  "%ListCreateEnvelopeInput",
  "%ListUpdateEnvelopeInput",
  "%UpsertInput",
  "%UpdateManyInput",
  "%DeleteManyInput",
  "%CompositeFilter",
  "%CompositeListFilter",
  "%NullableCompositeFilter",
  "%OrderByInput",
  "%OrderByCompositeAggregateInput"]

def payloadName (entity : String) : String := "$" ++ entity ++ "Payload"

def instantiate (entity template : String) : String :=
  String.join (template.toList.map fun c => if c == '%' then entity else c.toString)

def insertSorted (x : String) : List String → List String
  | [] => [x]
  | y :: ys => if x < y then x :: y :: ys else if x == y then y :: ys else y :: insertSorted x ys

def namesFor (entity : String) : List String :=
  aliasTemplates.foldl (fun acc t => insertSorted (instantiate entity t) acc) []

def splitTemplate (template : String) : Option (List Char × List Char) :=
  let cs := template.toList
  match cs.span (· != '%') with
  | (pre, _ :: suf) => some (pre, suf)
  | (_, []) => none

def templateBase? (aliasName template : String) : Option String := do
  let (pre, suf) ← splitTemplate template
  let rest ← stripPrefix? pre aliasName.toList
  let base ← stripSuffix? suf rest
  if base.isEmpty then none else some (String.ofList base)

def templateBases (aliasName : String) : List String :=
  aliasTemplates.filterMap (templateBase? aliasName)

end TypedJson.Naming
