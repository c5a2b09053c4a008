import TypedJson.Edit.Writer
/-!
# Rewrites see a catalog through its lookups

The classifier and the rewrite pass ask a catalog three things only: whether a name is a no-op,
which tagged entity owns an alias, and which tagged entity has a name. Two catalogs that answer
these alike classify every alias alike and rewrite every source and every buffer alike, however their
maps were filled.
-/
namespace TypedJson

structure Catalog.SameLookups (c c' : Catalog) : Prop where
  isNoOp : ∀ n, c.isNoOp n = c'.isNoOp n
  entityForAlias : ∀ a, c.entityForAlias? a = c'.entityForAlias? a
  entity : ∀ n, c.entity? n = c'.entity? n

namespace Catalog.SameLookups

open Syntax

variable {c c' : Catalog} (same : c.SameLookups c')
include same

theorem listFields (seen : Bool) (splits : List (String × String)) :
    Classify.listFields c seen splits = Classify.listFields c' seen splits := by
  induction splits generalizing seen with
  | nil => rfl
  | cons split rest ih => simp only [Classify.listFields, same.isNoOp, same.entity, ih]

theorem shapeBases (shape : Naming.RelationShape) (seen : Bool) (shortest : Option String)
    (bases : List String) :
    Classify.shapeBases c shape seen shortest bases =
      Classify.shapeBases c' shape seen shortest bases := by
  induction bases generalizing seen shortest with
  | nil => rfl
  | cons base rest ih => simp only [Classify.shapeBases, same.isNoOp, same.entity, ih]

theorem shapes (aliasName : String) (seen : Bool) (shapes : List Naming.RelationShape) :
    Classify.shapes c aliasName seen shapes = Classify.shapes c' aliasName seen shapes := by
  induction shapes generalizing seen with
  | nil => rfl
  | cons shape rest ih => simp only [Classify.shapes, same.shapeBases, ih]

theorem classify (aliasName : String) (isObject : Bool) :
    TypedJson.classify c aliasName isObject = TypedJson.classify c' aliasName isObject := by
  have noOps : c.isNoOp = c'.isNoOp := funext same.isNoOp
  simp only [TypedJson.classify, noOps, same.entityForAlias, same.listFields, same.shapes]

theorem resolveNested (source : String) (nested relationType : Node) :
    TypedJson.resolveNested c source nested relationType =
      TypedJson.resolveNested c' source nested relationType := by
  simp only [TypedJson.resolveNested, same.entity, same.classify]

theorem retype (source : String) : ∀ fuel : Nat,
    (∀ name obj entity, retypePayload c source fuel name obj entity =
      retypePayload c' source fuel name obj entity) ∧
    (∀ name obj entity, retypeEntityObject c source fuel name obj entity =
      retypeEntityObject c' source fuel name obj entity)
  | 0 => ⟨fun _ _ _ => rfl, fun _ _ _ => rfl⟩
  | fuel + 1 => by
    obtain ⟨payload, object⟩ := retype source fuel
    refine ⟨fun name obj entity => ?_, fun name obj entity => ?_⟩
    · simp only [retypePayload, same.resolveNested, object]
    · simp only [retypeEntityObject, payload]

theorem handleAlias (source : String) (a : TypeAlias) (stats : Stats) :
    TypedJson.handleAlias c source a stats = TypedJson.handleAlias c' source a stats := by
  simp only [TypedJson.handleAlias, same.classify, (same.retype source _).1]

theorem visitAlias (source : String) (a : TypeAlias) (acc : Patch × Report) :
    TypedJson.visitAlias c source a acc = TypedJson.visitAlias c' source a acc := by
  simp only [TypedJson.visitAlias, same.handleAlias]

theorem visitAll (source : String) (aliases : List TypeAlias) (acc : Patch × Report) :
    TypedJson.visitAll c source aliases acc = TypedJson.visitAll c' source aliases acc := by
  induction aliases generalizing acc with
  | nil => rfl
  | cons a rest ih => simp only [TypedJson.visitAll, same.visitAlias, ih]

theorem retypeModule (parseModule : String → Tree) (source : String) (patch : Patch) :
    TypedJson.retypeModule parseModule source c patch =
      TypedJson.retypeModule parseModule source c' patch := by
  simp only [TypedJson.retypeModule, same.visitAll]

theorem retypeSource (parseModule : String → Tree) (source : String) :
    TypedJson.retypeSource parseModule source c = TypedJson.retypeSource parseModule source c' := by
  simp only [TypedJson.retypeSource, same.retypeModule]

theorem retypeWriter (parseModule : String → Tree) (w : Writer) :
    TypedJson.retypeWriter parseModule w c = TypedJson.retypeWriter parseModule w c' := by
  simp only [TypedJson.retypeWriter, same.retypeModule]

end Catalog.SameLookups

end TypedJson
