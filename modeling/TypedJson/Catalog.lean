import Std.Data.HashMap
import Std.Data.HashSet
import TypedJson.Schema
import TypedJson.Naming
/-!
# The entity catalog

Lookups built once per run from the schema. Every entity with at least one tagged field
claims all of its direct alias names; an alias claimed twice is an error. Entities without
tagged fields are remembered as no-ops, so declarations that resolve to them are left alone.
-/
namespace TypedJson

structure Catalog where
  aliases : Std.HashMap String String := {}
  entities : Std.HashMap String Entity := {}
  noOps : Std.HashSet String := {}

namespace Catalog

def claim (owner : String) :
    List String → Std.HashMap String String → Except Error (Std.HashMap String String)
  | [], m => pure m
  | a :: rest, m =>
    match m[a]? with
    | some existing => throw (.aliasCollision a existing owner)
    | none => claim owner rest (m.insert a owner)

def add (c : Catalog) (e : Entity) : Except Error Catalog :=
  if !e.hasReplacements then pure { c with noOps := c.noOps.insert e.name }
  else do
    let aliases ← claim e.name (Naming.namesFor e.name) c.aliases
    pure { c with aliases, entities := c.entities.insert e.name e }

def ofEntities (es : List Entity) : Except Error Catalog :=
  es.foldlM add {}

def build (dm : Datamodel) (config : Config) : Except Error Catalog :=
  ofEntities (dm.models.map (Entity.fromSchema · .model config) ++
    dm.types.map (Entity.fromSchema · .type config))

def entityForAlias? (c : Catalog) (aliasName : String) : Option Entity := do
  let name ← c.aliases[aliasName]?
  c.entities[name]?

def entity? (c : Catalog) (name : String) : Option Entity := c.entities[name]?

def isNoOp (c : Catalog) (name : String) : Bool := c.noOps.contains name

def isEmpty (c : Catalog) : Bool := c.entities.isEmpty

def aliasCount (c : Catalog) : Nat := c.aliases.size

end Catalog

end TypedJson
