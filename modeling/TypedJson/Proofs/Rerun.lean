import TypedJson.Proofs.Catalog
import TypedJson.Proofs.Rollback
/-!
# Retyping a retyped module

A module whose type aliases all declare object types owned directly by one entity is retyped by
applying the edits of the entity's tagged fields, and nothing else: no fault, no rollback. This
turns a retype of such a module into a computation free of the catalog's hash maps, which is how
a retype of a concrete module is evaluated below.

Retyping the output once more is not always a no-op. The guard that leaves a field alone when
its type already holds its replacement searches the replacement left to right without overlaps,
so a match that is no word (inside `Foo_JsonValue`) can hide the real one after it; the field
is then retyped a second time.

Nor does the output always read back as the first module's tree with the replacements in
place. A replacement goes in without parentheses beside union members unless its loosest
operator is an arrow or a conditional; a `readonly` operand takes the rest of the type after
it, so the union members written after it end up inside it, out of a later retype's reach.
-/
namespace TypedJson

open Syntax Scheduling

variable {source : String} {parseModule : String → Tree}

theorem keptEdits_object {c : Catalog} {a : TypeAlias} {obj : Node} {e : Entity}
    {r : Resolution} (found : a.object? = some obj)
    (classified : classify c a.name true = .ok (.object e r)) :
    keptEdits c source a = (objectProperties obj source).flatMap (fieldEdits e source) := by
  have run : aliasRun c source a =
      modifyGet fun patch => (retypeObject obj e source patch).swap := by
    unfold aliasRun handleAlias
    simp only [found, Option.isSome_some, classified]
  obtain ⟨_, succeeds, edits⟩ := appendsOnly_modifyGet (@retypeObject_swap source obj e)
  unfold keptEdits
  rw [run, succeeds]
  exact edits

theorem retypeSource_clean {c : Catalog} {out : String}
    (clean : (walkModule (parseModule source) source).fault = none)
    (applied : (⟨(walkModule (parseModule source) source).aliases.flatMap (keptEdits c source)⟩ :
      Patch).apply source = .ok out) :
    ∃ report, retypeSource parseModule source c = .ok (out, report) ∧
      report.edits = ((walkModule (parseModule source) source).aliases.flatMap (keptEdits c source)).length := by
  obtain ⟨fails, succeeds⟩ := retypeModule_result parseModule source c {}
  have patched := retypeModule_patch parseModule source c {}
  cases result : (retypeModule parseModule source c {}).2 with
  | error e =>
    have faulted := (fails e).mp result
    rw [clean] at faulted
    cases faulted
  | ok report =>
    refine ⟨report, ?_, (succeeds report result).2⟩
    unfold retypeSource
    rcases visited : retypeModule parseModule source c {} with ⟨patch, result'⟩
    rw [visited] at patched result
    dsimp only at patched result
    subst patched result
    simp only [List.nil_append, applied]
    rfl

def objectAliasEdits (e : Entity) (source : String) (aliases : List TypeAlias) : List Edit :=
  aliases.flatMap fun a => (objectProperties a.value source).flatMap (fieldEdits e source)

theorem flatMap_keptEdits_objects {c : Catalog} {e : Entity} {aliases : List TypeAlias}
    (objects : ∀ a ∈ aliases, a.object?.isSome = true ∧ classify c a.name true = .ok (.object e .direct)) :
    aliases.flatMap (keptEdits c source) = objectAliasEdits e source aliases := by
  apply List.flatMap_congr
  intro a member
  obtain ⟨isObject, classified⟩ := objects a member
  obtain ⟨obj, found⟩ := Option.isSome_iff_exists.mp isObject
  rw [keptEdits_object found classified, TypeAlias.object_eq found]

theorem moduleEdits_objects {c : Catalog} {e : Entity}
    (flat : ∀ s ∈ (parseModule source).root.children, declaresNamespace s = false)
    (objects : ∀ a ∈ (parseModule source).root.children.filterMap (statementAlias? source),
      a.object?.isSome = true ∧ classify c a.name true = .ok (.object e .direct)) :
    (walkModule (parseModule source) source).aliases.flatMap (keptEdits c source) =
      objectAliasEdits e source ((parseModule source).root.children.filterMap (statementAlias? source)) := by
  rw [walkModule_flat flat]
  exact flatMap_keptEdits_objects objects

theorem retypeSource_objects {c : Catalog} {e : Entity} {out : String} {edits : List Edit}
    (flat : ∀ s ∈ (parseModule source).root.children, declaresNamespace s = false)
    (objects : ∀ a ∈ (parseModule source).root.children.filterMap (statementAlias? source),
      a.object?.isSome = true ∧ classify c a.name true = .ok (.object e .direct))
    (scheduled : objectAliasEdits e source
      ((parseModule source).root.children.filterMap (statementAlias? source)) = edits)
    (placed : Placed source 0 source.utf8ByteSize edits)
    (spliced : Patch.splice source 0 (edits.mergeSort Edit.byRange) = out) :
    ∃ report, retypeSource parseModule source c = .ok (out, report) ∧ report.edits = edits.length := by
  have kept : (walkModule (parseModule source) source).aliases.flatMap (keptEdits c source) = edits := by
    rw [moduleEdits_objects flat objects, scheduled]
  have applied : (⟨(walkModule (parseModule source) source).aliases.flatMap (keptEdits c source)⟩ :
      Patch).apply source = .ok out := by
    rw [kept, ← spliced]
    exact Patch.apply_placed placed
  obtain ⟨report, retyped, counted⟩ := retypeSource_clean (by rw [walkModule_flat flat]) applied
  exact ⟨report, retyped, by rw [counted, kept]⟩

theorem objects_of_named {c : Catalog} {e : Entity} {name : String} {aliases : List TypeAlias}
    (classified : classify c name true = .ok (.object e .direct))
    (named : aliases.all (fun a => a.name == name && a.object?.isSome) = true) :
    ∀ a ∈ aliases, a.object?.isSome = true ∧ classify c a.name true = .ok (.object e .direct) := by
  intro a member
  have both := List.all_eq_true.mp named a member
  simp only [Bool.and_eq_true, beq_iff_eq] at both
  obtain ⟨sameName, isObject⟩ := both
  exact ⟨isObject, sameName ▸ classified⟩

-- the form in which a retype of a concrete module is evaluated: the facts about its tree are
-- one decidable conjunction, so the kernel parses the module once for all of them
theorem retypeSource_named {c : Catalog} {e : Entity} {name out : String} {edits : List Edit}
    (classified : classify c name true = .ok (.object e .direct))
    (facts : (∀ s ∈ (parseModule source).root.children, declaresNamespace s = false) ∧
      ((parseModule source).root.children.filterMap (statementAlias? source)).all
        (fun a => a.name == name && a.object?.isSome) = true ∧
      objectAliasEdits e source
        ((parseModule source).root.children.filterMap (statementAlias? source)) = edits ∧
      Placed source 0 source.utf8ByteSize edits ∧
      Patch.splice source 0 (edits.mergeSort Edit.byRange) = out) :
    ∃ report, retypeSource parseModule source c = .ok (out, report) ∧ report.edits = edits.length :=
  let ⟨flat, named, scheduled, placed, spliced⟩ := facts
  retypeSource_objects flat (objects_of_named classified named) scheduled placed spliced

theorem build_single_model {m : SchemaModel} {e : Entity} {a : String}
    (resolved : Entity.fromSchema m .model {} = e) (tagged : e.hasReplacements = true)
    (emitted : a ∈ Naming.namesFor e.name) (notPayload : a ≠ Naming.payloadName e.name) :
    ∃ c, Catalog.build ⟨[m], []⟩ {} = .ok c ∧ classify c a true = .ok (.object e .direct) := by
  obtain ⟨c, built⟩ : ∃ c, Catalog.ofEntities [e] = .ok c := ⟨_, Catalog.ofEntities_single tagged⟩
  refine ⟨c, ?_, classify_emitted_single tagged built emitted notPayload⟩
  rw [Catalog.build, List.map_singleton, List.map_nil, List.append_nil, resolved]
  exact built

/-- Retyping twice is not a no-op. With the field `a` of `User` tagged `JsonValue | JsonValue`,
the first retype of `type User = { a: Foo_JsonValue | JsonValue }` replaces the one blob
reference; in its output the guard's first match of the replacement starts inside
`Foo_JsonValue`, is no word, and hides the replacement written right after it, so the second
retype replaces both blob references again. -/
theorem retypeSource_rerun_edits_again :
    ∃ dm c, Datamodel.fromJson ("\x7b\"models\": [\x7b\"name\": \"User\", \"fields\": [\x7b\"name\": " ++
        "\"a\", \"type\": \"Json\", \"documentation\": \"![JsonValue | JsonValue]\"\x7d]\x7d], " ++
        "\"types\": []\x7d") = .ok dm ∧ Catalog.build dm {} = .ok c ∧
      (parse "type User = \x7b a: Foo_JsonValue | JsonValue \x7d").root.containsError = false ∧
      ∃ r₁ r₂,
        retypeSource parse "type User = \x7b a: Foo_JsonValue | JsonValue \x7d" c =
          .ok ("type User = \x7b a: Foo_JsonValue | JsonValue | JsonValue \x7d", r₁) ∧ r₁.edits = 1 ∧
        retypeSource parse "type User = \x7b a: Foo_JsonValue | JsonValue | JsonValue \x7d" c =
          .ok ("type User = \x7b a: Foo_JsonValue | JsonValue | JsonValue | JsonValue | JsonValue \x7d",
            r₂) ∧ r₂.edits = 2 := by
  -- the schema decodes to one model whose field `a` carries the annotation
  have decoded : Datamodel.fromJson ("\x7b\"models\": [\x7b\"name\": \"User\", \"fields\": [\x7b\"name\": " ++
      "\"a\", \"type\": \"Json\", \"documentation\": \"![JsonValue | JsonValue]\"\x7d]\x7d], " ++
      "\"types\": []\x7d") =
      .ok ⟨[⟨"User", [⟨"a", "Json", some "![JsonValue | JsonValue]"⟩]⟩], []⟩ := by
    decide +kernel
  have resolved : Entity.fromSchema ⟨"User", [⟨"a", "Json", some "![JsonValue | JsonValue]"⟩]⟩
      .model {} = ⟨"User", .model, [⟨"a", "Json", some "JsonValue | JsonValue"⟩]⟩ := by
    decide +kernel
  obtain ⟨c, built, classified⟩ := build_single_model resolved (by decide)
    (Naming.mem_namesFor_self _) (Naming.ne_payloadName _)
  refine ⟨_, c, decoded, built, by decide +kernel, ?_⟩
  -- each run is the splice of the entity's field edits, found without the catalog
  obtain ⟨r₁, once, count₁⟩ : ∃ r, retypeSource parse "type User = \x7b a: Foo_JsonValue | JsonValue \x7d" _ =
      .ok ("type User = \x7b a: Foo_JsonValue | JsonValue | JsonValue \x7d", r) ∧
      r.edits = [(⟨33, 42, "JsonValue | JsonValue"⟩ : Edit)].length :=
    retypeSource_named classified (by decide +kernel)
  obtain ⟨r₂, twice, count₂⟩ : ∃ r,
      retypeSource parse "type User = \x7b a: Foo_JsonValue | JsonValue | JsonValue \x7d" _ =
        .ok ("type User = \x7b a: Foo_JsonValue | JsonValue | JsonValue | JsonValue | JsonValue \x7d",
          r) ∧
      r.edits = [(⟨33, 42, "JsonValue | JsonValue"⟩ : Edit), ⟨45, 54, "JsonValue | JsonValue"⟩].length :=
    retypeSource_named classified (by rw [List.mergeSort_of_pairwise (by decide)]; decide +kernel)
  exact ⟨r₁, r₂, once, count₁, twice, count₂⟩

def blobUnionModule : String := "type User = \x7b f: JsonValue | JsonValue[] \x7d"

def readonlyRetypedModule : String :=
  "type User = \x7b f: JsonValue | readonly string[] | (JsonValue | readonly string[])[] \x7d"

/-- A `readonly` operand takes the union members after it. With the field `f` of `User` tagged
`JsonValue | readonly string[]`, a type that parses on its own, the retype of `blobUnionModule`
writes the tag bare as a union member (its loosest operator is a bar) and in parentheses as the
array element. The output parses without error, but as the union of the first blob reference
and one `readonly` type that runs to the end of the field type, the second copy included. A
retype of the output with `f` tagged `B` so replaces only the first blob reference, where the
tree with each blob reference replaced by the tag's own tree has one in each copy. -/
theorem retypeSource_readonly_captures_later_copy :
    ∃ dm₁ c₁ dm₂ c₂,
      Datamodel.fromJson ("\x7b\"models\": [\x7b\"name\": \"User\", \"fields\": [\x7b\"name\": " ++
        "\"f\", \"type\": \"Json\", \"documentation\": \"![JsonValue | readonly string[]]\"\x7d]\x7d], " ++
        "\"types\": []\x7d") = .ok dm₁ ∧ Catalog.build dm₁ {} = .ok c₁ ∧
      Datamodel.fromJson ("\x7b\"models\": [\x7b\"name\": \"User\", \"fields\": [\x7b\"name\": " ++
        "\"f\", \"type\": \"Json\", \"documentation\": \"[B]\"\x7d]\x7d], \"types\": []\x7d") = .ok dm₂ ∧
      Catalog.build dm₂ {} = .ok c₂ ∧
      (parse "type A = JsonValue | readonly string[]").root.containsError = false ∧
      (parse blobUnionModule).root.containsError = false ∧
      (∃ r, retypeSource parse blobUnionModule c₁ = .ok (readonlyRetypedModule, r) ∧ r.edits = 2) ∧
      (parse readonlyRetypedModule).root.containsError = false ∧
      (∃ obj ∈ (parse readonlyRetypedModule).root.children.head?.bind (·.field? .value),
        ∃ prop ∈ objectProperties obj readonlyRetypedModule, ∃ ty ∈ prop.type?,
          ∃ last ∈ ty.children.getLast?, ty.kind = .unionType ∧ ty.children.length = 2 ∧
            last.kind = .readonlyType ∧ last.start = 29 ∧ last.stop = ty.stop) ∧
      ∃ r, retypeSource parse readonlyRetypedModule c₂ =
        .ok ("type User = \x7b f: PrismaJson.B | readonly string[] | " ++
          "(JsonValue | readonly string[])[] \x7d", r) ∧ r.edits = 1 := by
  -- each schema decodes to the one model `User` whose field `f` carries its tag
  have decoded₁ : Datamodel.fromJson ("\x7b\"models\": [\x7b\"name\": \"User\", \"fields\": [\x7b\"name\": " ++
      "\"f\", \"type\": \"Json\", \"documentation\": \"![JsonValue | readonly string[]]\"\x7d]\x7d], " ++
      "\"types\": []\x7d") =
      .ok ⟨[⟨"User", [⟨"f", "Json", some "![JsonValue | readonly string[]]"⟩]⟩], []⟩ := by
    decide +kernel
  have decoded₂ : Datamodel.fromJson ("\x7b\"models\": [\x7b\"name\": \"User\", \"fields\": [\x7b\"name\": " ++
      "\"f\", \"type\": \"Json\", \"documentation\": \"[B]\"\x7d]\x7d], \"types\": []\x7d") =
      .ok ⟨[⟨"User", [⟨"f", "Json", some "[B]"⟩]⟩], []⟩ := by
    decide +kernel
  have resolved₁ : Entity.fromSchema ⟨"User", [⟨"f", "Json", some "![JsonValue | readonly string[]]"⟩]⟩
      .model {} = ⟨"User", .model, [⟨"f", "Json", some "JsonValue | readonly string[]"⟩]⟩ := by
    decide +kernel
  have resolved₂ : Entity.fromSchema ⟨"User", [⟨"f", "Json", some "[B]"⟩]⟩ .model {} =
      ⟨"User", .model, [⟨"f", "Json", some "PrismaJson.B"⟩]⟩ := by
    decide +kernel
  obtain ⟨c₁, built₁, classified₁⟩ := build_single_model resolved₁ (by decide)
    (Naming.mem_namesFor_self _) (Naming.ne_payloadName _)
  obtain ⟨c₂, built₂, classified₂⟩ := build_single_model resolved₂ (by decide)
    (Naming.mem_namesFor_self _) (Naming.ne_payloadName _)
  -- the first retype replaces both blob references, the array element in parentheses
  have once : ∃ r, retypeSource parse blobUnionModule c₁ = .ok (readonlyRetypedModule, r) ∧
      r.edits = [(⟨17, 26, "JsonValue | readonly string[]"⟩ : Edit),
        ⟨29, 38, "(JsonValue | readonly string[])"⟩].length :=
    retypeSource_named classified₁ (by rw [List.mergeSort_of_pairwise (by decide)]; decide +kernel)
  -- the second one reaches only the first: the copy in the array is inside the readonly type
  have again : ∃ r, retypeSource parse readonlyRetypedModule c₂ =
      .ok ("type User = \x7b f: PrismaJson.B | readonly string[] | " ++
        "(JsonValue | readonly string[])[] \x7d", r) ∧
      r.edits = [(⟨17, 26, "PrismaJson.B"⟩ : Edit)].length :=
    retypeSource_named classified₂ (by decide +kernel)
  exact ⟨_, c₁, _, c₂, decoded₁, built₁, decoded₂, built₂, by decide +kernel, by decide +kernel,
    once, by decide +kernel, by decide +kernel, again⟩

end TypedJson
