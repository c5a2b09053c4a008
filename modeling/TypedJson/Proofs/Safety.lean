import TypedJson.Proofs.Rerun
/-!
# Retyping edits safely

On a source whose tree is well formed (children inside their parent, siblings apart and in
order, every boundary between characters), whatever parser gave that tree, the edits a retype
schedules are non-empty, lie inside the source between characters and do not overlap, so
applying them never fails. A retype then fails only on a namespace entered without statements.
-/
namespace TypedJson

open Syntax

/-- The edits a retype schedules into a fresh patch are placed, no two on the same span, and
accepted; the only fault of a retype is a namespace entered without statements. -/
theorem retypeSource_edits_safe (parseModule : String → Tree) (source : String) (c : Catalog)
    (wf : (parseModule source).WellFormed source) :
    Placed source 0 source.utf8ByteSize (retypeModule parseModule source c {}).1.edits ∧
    (retypeModule parseModule source c {}).1.edits.Pairwise
      (fun e f => (e.start, e.stop) ≠ (f.start, f.stop)) ∧
    (∃ out, (retypeModule parseModule source c {}).1.apply source = .ok out) ∧
    ∀ e, retypeSource parseModule source c = .error e →
      e = .emptyNamespace ∧ (walkModule (parseModule source) source).fault = some .emptyNamespace := by
  have placed := freshModule_placed c wf
  have distinct : (retypeModule parseModule source c {}).1.edits.Pairwise
      (fun e f => (e.start, e.stop) ≠ (f.start, f.stop)) :=
    placed.2.imp_of_mem fun {e f} eMember _ apart same => by
      obtain ⟨sameStart, sameStop⟩ := Prod.mk.inj same
      have nonempty := (placed.1 e eMember).2.1
      unfold Edit.Apart at apart
      omega
  refine ⟨placed, distinct, ⟨_, Patch.apply_placed placed⟩, fun e failed => ?_⟩
  rcases retypeSource_error failed with moduleFailed | applyFailed
  · have fault := ((retypeModule_result parseModule source c {}).1 e).mp moduleFailed
    have empty := walkModule_fault fault
    subst empty
    exact ⟨rfl, fault⟩
  · rw [Patch.apply_placed placed] at applyFailed
    cases applyFailed

theorem retypeSource_edits_safe_settings :
    ∃ c, Catalog.build ⟨[⟨"User", [⟨"a", "Json", some "[Settings]"⟩]⟩], []⟩ {} = .ok c ∧
      (retypeModule parse "type User = \x7b a: JsonValue \x7d" c {}).1.edits =
        [⟨17, 26, "PrismaJson.Settings"⟩] ∧
      (parse "type User = \x7b a: JsonValue \x7d").WellFormed "type User = \x7b a: JsonValue \x7d" ∧
      Placed "type User = \x7b a: JsonValue \x7d" 0 "type User = \x7b a: JsonValue \x7d".utf8ByteSize
        (retypeModule parse "type User = \x7b a: JsonValue \x7d" c {}).1.edits ∧
      (retypeModule parse "type User = \x7b a: JsonValue \x7d" c {}).1.edits.Pairwise
        (fun e f => (e.start, e.stop) ≠ (f.start, f.stop)) ∧
      (∃ out, (retypeModule parse "type User = \x7b a: JsonValue \x7d" c {}).1.apply
        "type User = \x7b a: JsonValue \x7d" = .ok out) ∧
      ∀ e, retypeSource parse "type User = \x7b a: JsonValue \x7d" c = .error e →
        e = .emptyNamespace ∧
          (walkModule (parse "type User = \x7b a: JsonValue \x7d") "type User = \x7b a: JsonValue \x7d").fault =
            some .emptyNamespace := by
  have resolved : Entity.fromSchema ⟨"User", [⟨"a", "Json", some "[Settings]"⟩]⟩ .model {} =
      ⟨"User", .model, [⟨"a", "Json", some "PrismaJson.Settings"⟩]⟩ := by
    decide +kernel
  obtain ⟨c, built, classified⟩ := build_single_model resolved (by decide)
    (Naming.mem_namesFor_self _) (Naming.ne_payloadName _)
  have wf : (parse "type User = \x7b a: JsonValue \x7d").WellFormed "type User = \x7b a: JsonValue \x7d" := by
    decide +kernel
  refine ⟨c, built, ?_, wf, retypeSource_edits_safe parse _ c wf⟩
  -- the one alias is a direct object of `User`, so its edits are those of the tagged field
  rw [freshModule_edits, moduleEdits_objects (by decide +kernel)
    (objects_of_named classified (by decide +kernel))]
  decide +kernel

end TypedJson
