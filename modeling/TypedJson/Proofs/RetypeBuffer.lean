import TypedJson.Proofs.Buffer
import TypedJson.Proofs.Generated
import TypedJson.Proofs.Rerun
/-!
# Retyping the buffer

A retype of the buffer runs the module's pass over its text into its pending patch, then
commits. The pass cuts the patch back only to where an alias began, never into the edits that
were pending, and a commit that fails keeps its patch. So a retype that fails, at an entered
namespace without statements or in its commit, keeps pending what was pending before and the
edits of every alias it visited, and a later commit applies them.

On a fresh buffer a retype that succeeds holds the retyped text of the buffer's text, with
nothing pending, and is dirty exactly when that text changed.
-/
namespace TypedJson

open Syntax

variable {w : Writer} {c : Catalog} {parseModule : String → Tree}

theorem retypeWriter_ofSource (parseModule : String → Tree) (path text : String) (c : Catalog) :
    (retypeWriter parseModule (Writer.ofSource path text) c).2 =
        (retypeSource parseModule text c).map Prod.snd ∧
      ∀ out report, retypeSource parseModule text c = .ok (out, report) →
        (retypeWriter parseModule (Writer.ofSource path text) c).1 = ⟨path, out, {}, out != text⟩ := by
  unfold retypeWriter retypeSource
  simp only [Writer.ofSource]
  rcases retypeModule parseModule text c {} with ⟨patch, result⟩
  cases result with
  | error e => exact ⟨rfl, fun out report retyped => by cases retyped⟩
  | ok report =>
    dsimp only
    split
    · next w' e committed =>
      have applied := (Writer.commit_error committed).2
      simp only at applied
      simp [applied, bind, Except.bind, Except.map]
    · next w' n committed =>
      obtain ⟨applied, emptied, _, dirty, samePath⟩ := Writer.commit_ok committed
      simp only at applied dirty samePath
      refine ⟨by simp [applied, bind, Except.bind, pure, Except.pure, Except.map],
        fun out report' retyped => ?_⟩
      simp only [applied, bind, Except.bind, pure, Except.pure, Except.ok.injEq, Prod.mk.injEq] at retyped
      obtain ⟨rfl, rfl⟩ := retyped
      cases w'
      simp_all

theorem retypeWriter_faulted {e : Error}
    (faulted : (walkModule (parseModule w.content) w.content).fault = some e) :
    retypeWriter parseModule w c = ({ w with patch := ⟨w.patch.edits ++
        (walkModule (parseModule w.content) w.content).aliases.flatMap (keptEdits c w.content)⟩ }, .error e) := by
  have failed := ((retypeModule_result parseModule w.content c w.patch).1 e).mpr faulted
  rw [← retypeModule_patch parseModule w.content c w.patch]
  unfold retypeWriter
  rcases pass : retypeModule parseModule w.content c w.patch with ⟨patch, result⟩
  rw [pass] at failed
  dsimp only at failed ⊢
  subst failed
  rfl

/-- A retype of the buffer that fails leaves its path, text and dirty flag as they were, and
keeps pending the edits pending before followed by those the visited aliases kept. It fails
because the walk entered a namespace without statements, or else because that patch does not
apply. -/
theorem retypeWriter_error_keeps_edits {e : Error}
    (failed : (retypeWriter parseModule w c).2 = .error e) :
    (retypeWriter parseModule w c).1 = { w with patch := ⟨w.patch.edits ++
        (walkModule (parseModule w.content) w.content).aliases.flatMap (keptEdits c w.content)⟩ } ∧
      ((walkModule (parseModule w.content) w.content).fault = some e ∨
        (walkModule (parseModule w.content) w.content).fault = none ∧
          Patch.apply ⟨w.patch.edits ++ (walkModule (parseModule w.content) w.content).aliases.flatMap
            (keptEdits c w.content)⟩ w.content = .error e) := by
  obtain ⟨fails, _⟩ := retypeModule_result parseModule w.content c w.patch
  rw [← retypeModule_patch parseModule w.content c w.patch]
  unfold retypeWriter at failed ⊢
  rcases pass : retypeModule parseModule w.content c w.patch with ⟨patch, result⟩
  rw [pass] at fails failed
  cases result with
  | error e' =>
    cases failed
    exact ⟨rfl, .inl ((fails e).mp rfl)⟩
  | ok report =>
    -- the pass succeeded, so the walk met no fault and the commit failed
    have clean : (walkModule (parseModule w.content) w.content).fault = none := by
      cases fault : (walkModule (parseModule w.content) w.content).fault with
      | none => rfl
      | some f => cases (fails f).mpr fault
    dsimp only at failed ⊢
    split at failed
    · next w' e' committed =>
      cases failed
      obtain ⟨same, applied⟩ := Writer.commit_error committed
      exact ⟨same, .inr ⟨clean, applied⟩⟩
    · cases failed

def createInputBeforeEmptyNamespace : String :=
  "type UserCreateInput = \x7b settings: JsonValue \x7d\nnamespace Prisma \x7b\x7d\n"

theorem build_settings_model :
    ∃ c, Catalog.build ⟨[⟨"User", [⟨"settings", "Json", some "[Settings]"⟩]⟩], []⟩ {} = .ok c ∧
      classify c "UserCreateInput" true =
        .ok (.object ⟨"User", .model, [⟨"settings", "Json", some "PrismaJson.Settings"⟩]⟩ .direct) := by
  have resolved : Entity.fromSchema ⟨"User", [⟨"settings", "Json", some "[Settings]"⟩]⟩ .model {} =
      ⟨"User", .model, [⟨"settings", "Json", some "PrismaJson.Settings"⟩]⟩ := by
    decide +kernel
  -- the alias is one of the names generated for `User`
  have emitted : "UserCreateInput" ∈ Naming.namesFor "User" :=
    Naming.mem_namesFor.mpr ⟨"%CreateInput", by simp [Naming.aliasTemplates], by decide⟩
  exact build_single_model resolved (by decide) emitted (by decide)

theorem retypeWriter_error_keeps_edits_settings :
    ∃ c, Catalog.build ⟨[⟨"User", [⟨"settings", "Json", some "[Settings]"⟩]⟩], []⟩ {} = .ok c ∧
      (walkModule (parse createInputBeforeEmptyNamespace) createInputBeforeEmptyNamespace).aliases.flatMap
          (keptEdits c createInputBeforeEmptyNamespace) = [⟨35, 44, "PrismaJson.Settings"⟩] ∧
      (retypeWriter parse (Writer.ofSource "index.d.ts" createInputBeforeEmptyNamespace) c).2 =
        .error .emptyNamespace ∧
      (retypeWriter parse (Writer.ofSource "index.d.ts" createInputBeforeEmptyNamespace) c).1 =
        { Writer.ofSource "index.d.ts" createInputBeforeEmptyNamespace with
          patch := ⟨[] ++ (walkModule (parse createInputBeforeEmptyNamespace)
            createInputBeforeEmptyNamespace).aliases.flatMap
              (keptEdits c createInputBeforeEmptyNamespace)⟩ } ∧
      ((walkModule (parse createInputBeforeEmptyNamespace) createInputBeforeEmptyNamespace).fault =
          some .emptyNamespace ∨
        (walkModule (parse createInputBeforeEmptyNamespace) createInputBeforeEmptyNamespace).fault =
            none ∧
          Patch.apply ⟨[] ++ (walkModule (parse createInputBeforeEmptyNamespace)
            createInputBeforeEmptyNamespace).aliases.flatMap
              (keptEdits c createInputBeforeEmptyNamespace)⟩
            createInputBeforeEmptyNamespace = .error .emptyNamespace) := by
  obtain ⟨c, built, classified⟩ := build_settings_model
  -- what the tree holds before the namespace, read off one evaluation of the parse
  obtain ⟨flat, empty, named, edits⟩ :
      (∀ s ∈ (parse createInputBeforeEmptyNamespace).root.children.take 1,
        declaresNamespace s = false) ∧
      ((parse createInputBeforeEmptyNamespace).root.children.drop 1).head?.any
        (entersEmpty (· == clientNamespace) createInputBeforeEmptyNamespace) = true ∧
      (((parse createInputBeforeEmptyNamespace).root.children.take 1).filterMap
        (statementAlias? createInputBeforeEmptyNamespace)).all
          (fun a => a.name == "UserCreateInput" && a.object?.isSome) = true ∧
      objectAliasEdits ⟨"User", .model, [⟨"settings", "Json", some "PrismaJson.Settings"⟩]⟩
        createInputBeforeEmptyNamespace
        (((parse createInputBeforeEmptyNamespace).root.children.take 1).filterMap
          (statementAlias? createInputBeforeEmptyNamespace)) =
        [⟨35, 44, "PrismaJson.Settings"⟩] := by
    decide +kernel
  -- the walk meets the alias, then stops at the namespace
  have walked := walkModule_stops flat empty
  have kept : (walkModule (parse createInputBeforeEmptyNamespace)
      createInputBeforeEmptyNamespace).aliases.flatMap (keptEdits c createInputBeforeEmptyNamespace) =
        [⟨35, 44, "PrismaJson.Settings"⟩] := by
    rw [walked, flatMap_keptEdits_objects (objects_of_named classified named)]
    exact edits
  have failed : (retypeWriter parse (Writer.ofSource "index.d.ts" createInputBeforeEmptyNamespace) c).2 =
      .error .emptyNamespace := by
    rw [@retypeWriter_faulted (Writer.ofSource "index.d.ts" createInputBeforeEmptyNamespace) c parse _
      (congrArg Walk.fault walked)]
  exact ⟨c, built, kept, failed, retypeWriter_error_keeps_edits failed⟩

theorem retypeWriter_stops_objects {path source : String} {e : Entity} {k : Nat}
    (flat : ∀ s ∈ (parseModule source).root.children.take k, declaresNamespace s = false)
    (empty : ((parseModule source).root.children.drop k).head?.any
      (entersEmpty (· == clientNamespace) source) = true)
    (objects : ∀ a ∈ ((parseModule source).root.children.take k).filterMap (statementAlias? source),
      a.object?.isSome = true ∧ classify c a.name true = .ok (.object e .direct)) :
    retypeWriter parseModule (Writer.ofSource path source) c =
      (⟨path, source, ⟨objectAliasEdits e source
        (((parseModule source).root.children.take k).filterMap (statementAlias? source))⟩, false⟩,
        .error .emptyNamespace) := by
  have walked := @walkModule_stops source (parseModule source) k flat empty
  rw [@retypeWriter_faulted (Writer.ofSource path source) c parseModule _ (congrArg Walk.fault walked)]
  simp only [Writer.ofSource, walked, flatMap_keptEdits_objects objects, List.nil_append]

/-- A retype that reaches an empty client namespace after an alias scheduled its edit fails,
and leaves that edit pending: the next commit applies it and makes the buffer dirty. -/
theorem retypeWriter_empty_namespace_leaves_edit :
    ∃ dm c, Datamodel.fromJson ("\x7b\"models\": [\x7b\"name\": \"User\", \"fields\": " ++
        "[\x7b\"name\": \"settings\", \"type\": \"Json\", " ++
        "\"documentation\": \"[Settings]\"\x7d]\x7d], \"types\": []\x7d") = .ok dm ∧
      Catalog.build dm {} = .ok c ∧
      retypeWriter parse (Writer.ofSource "index.d.ts" "type UserCreateInput = \x7b settings: JsonValue \x7d\nnamespace Prisma \x7b\x7d\n") c =
        (⟨"index.d.ts", "type UserCreateInput = \x7b settings: JsonValue \x7d\nnamespace Prisma \x7b\x7d\n", ⟨[⟨35, 44, "PrismaJson.Settings"⟩]⟩, false⟩,
          .error .emptyNamespace) ∧
      Writer.commit ⟨"index.d.ts", "type UserCreateInput = \x7b settings: JsonValue \x7d\nnamespace Prisma \x7b\x7d\n", ⟨[⟨35, 44, "PrismaJson.Settings"⟩]⟩, false⟩ =
        (⟨"index.d.ts", "type UserCreateInput = \x7b settings: PrismaJson.Settings \x7d\nnamespace Prisma \x7b\x7d\n", {}, true⟩, .ok 1) := by
  have decoded : Datamodel.fromJson ("\x7b\"models\": [\x7b\"name\": \"User\", \"fields\": " ++
      "[\x7b\"name\": \"settings\", \"type\": \"Json\", " ++
      "\"documentation\": \"[Settings]\"\x7d]\x7d], \"types\": []\x7d") =
      .ok ⟨[⟨"User", [⟨"settings", "Json", some "[Settings]"⟩]⟩], []⟩ := by
    decide +kernel
  obtain ⟨c, built, classified⟩ := build_settings_model
  have applied : (⟨[⟨35, 44, "PrismaJson.Settings"⟩]⟩ : Patch).apply "type UserCreateInput = \x7b settings: JsonValue \x7d\nnamespace Prisma \x7b\x7d\n" = .ok "type UserCreateInput = \x7b settings: PrismaJson.Settings \x7d\nnamespace Prisma \x7b\x7d\n" := by
    rw [Patch.apply_placed (by decide +kernel), List.mergeSort_singleton]
    decide +kernel
  refine ⟨_, c, decoded, built, ?_, ?_⟩
  · -- the walk finds the alias, then stops at the namespace
    rw [@retypeWriter_stops_objects c parse "index.d.ts" "type UserCreateInput = \x7b settings: JsonValue \x7d\nnamespace Prisma \x7b\x7d\n" (⟨"User", .model, [⟨"settings", "Json", some "PrismaJson.Settings"⟩]⟩ : Entity) 1 (by decide +kernel)
      (by decide +kernel) (objects_of_named classified (by decide +kernel))]
    decide +kernel
  · simp only [Writer.commit, applied]
    decide +kernel

end TypedJson
