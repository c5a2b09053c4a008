import TypedJson.Json.Decode
import TypedJson.Tag
import TypedJson.Error
/-!
# Schema descriptions

The part of a schema description that matters here: models and composite types, their fields,
and the fields' types and documentation. A description is either a whole document with a
`datamodel` member or the data model itself; unknown members are ignored, and `fields`,
`type` and `documentation` may be left out. An entity is a model or type with each field's tag
already resolved.
-/
namespace TypedJson

open Json

structure SchemaField where
  name : String
  fieldType : String := ""
  documentation : Option String := none
deriving DecidableEq, Repr, Inhabited

structure SchemaModel where
  name : String
  fields : List SchemaField := []
deriving DecidableEq, Repr, Inhabited

structure Datamodel where
  models : List SchemaModel := []
  types : List SchemaModel := []
deriving DecidableEq, Repr, Inhabited

namespace Datamodel

def decodeField : Value → Decode SchemaField
  | .object members => do
    let mut name : Option String := none
    let mut fieldType := ""
    let mut documentation : Option String := none
    for (k, v) in members do
      if k == "documentation" then documentation ← decodeOptString v
      else if k == "name" then name := some (← decodeString v)
      else if k == "type" then fieldType ← decodeString v
    match name with
    | some n => pure { name := n, fieldType, documentation }
    | none => throw (missingField "name")
  | .array items =>
    match items with
    | [] => throw (invalidLength 0 (recordWith "SchemaField" 3))
    | [n] => do pure { name := ← decodeString n }
    | [n, t] => do pure { name := ← decodeString n, fieldType := ← decodeString t }
    | [n, t, d] => do
      pure { name := ← decodeString n, fieldType := ← decodeString t,
             documentation := ← decodeOptString d }
    | _ :: _ :: _ :: _ :: _ => do
      -- the three fields are decoded before the length is checked
      match items with
      | n :: t :: d :: _ =>
        let _ ← decodeString n
        let _ ← decodeString t
        let _ ← decodeOptString d
      | _ => pure ()
      throw (tooLong items)
  | v => throw (invalidType v "struct SchemaField")

def decodeModel : Value → Decode SchemaModel
  | .object members => do
    let mut name : Option String := none
    let mut fields : List SchemaField := []
    for (k, v) in members do
      if k == "fields" then fields ← decodeList decodeField v
      else if k == "name" then name := some (← decodeString v)
    match name with
    | some n => pure { name := n, fields }
    | none => throw (missingField "name")
  | .array items =>
    match items with
    | [] => throw (invalidLength 0 (recordWith "SchemaModel" 2))
    | [n] => do pure { name := ← decodeString n }
    | [n, fs] => do pure { name := ← decodeString n, fields := ← decodeList decodeField fs }
    | n :: fs :: _ :: _ => do
      let _ ← decodeString n
      let _ ← decodeList decodeField fs
      throw (tooLong items)
  | v => throw (invalidType v "struct SchemaModel")

def decode : Value → Decode Datamodel
  | .object members => do
    let mut models : List SchemaModel := []
    let mut types : List SchemaModel := []
    for (k, v) in members do
      if k == "models" then models ← decodeList decodeModel v
      else if k == "types" then types ← decodeList decodeModel v
    pure { models, types }
  | .array items =>
    match items with
    | [] => pure {}
    | [ms] => do pure { models := ← decodeList decodeModel ms }
    | [ms, ts] => do
      pure { models := ← decodeList decodeModel ms, types := ← decodeList decodeModel ts }
    | ms :: ts :: _ :: _ => do
      let _ ← decodeList decodeModel ms
      let _ ← decodeList decodeModel ts
      throw (tooLong items)
  | v => throw (invalidType v "struct Datamodel")

def fromJson (text : String) : Except TypedJson.Error Datamodel :=
  let decoded : Except Json.Error Datamodel := do
    let v ← Json.parse text
    match v.member? "datamodel" with
    | some dm => decode dm
    | none => decode v
  decoded.mapError fun e => .schema e.render

end Datamodel

inductive EntityKind where
  | model
  | type
deriving DecidableEq, Repr, Inhabited

def EntityKind.name : EntityKind → String
  | .model => "model"
  | .type => "type"

structure Field where
  name : String
  fieldType : String
  replacement : Option String
deriving DecidableEq, Repr, Inhabited

structure Entity where
  name : String
  kind : EntityKind
  fields : List Field
deriving DecidableEq, Repr, Inhabited

namespace Entity

def fromSchema (model : SchemaModel) (kind : EntityKind) (config : Config) : Entity :=
  { name := model.name, kind,
    fields := model.fields.map fun f =>
      { name := f.name, fieldType := f.fieldType,
        replacement := resolveFieldType f.documentation f.fieldType config } }

def hasReplacements (e : Entity) : Bool := e.fields.any (·.replacement.isSome)

def replacementFor (e : Entity) (field : String) : Option String :=
  (e.fields.find? (·.name == field)).bind (·.replacement)

end Entity

end TypedJson
