import TypedJson.Proofs.Catalog
import TypedJson.Proofs.Rollback
/-!
# Names the generator emits

Every name the generator emits for an entity of a catalog that builds is classified without
fault: a name a tagged entity claims resolves to it, and any other one is a no-op through the
untagged entity it was made from. A name emitted only for untagged entities is a no-op, so its
declarations schedule nothing, and on a well-formed source a retype leaves each of them as it
was, whatever it declares.
-/
namespace TypedJson

open Syntax

theorem classify_owned {c : Catalog} {a : String} {e : Entity}
    (owned : c.entityForAlias? a = some e) : ∃ d, classify c a true = .ok d := by
  by_cases noOp : c.isNoOp a = true
  · exact ⟨.noOp, by simp [classify, noOp, pure, Except.pure]⟩
  · refine ⟨if a = Naming.payloadName e.name then .payload e else .object e .direct, ?_⟩
    simp [classify, noOp, owned, pure, Except.pure]

theorem classify_template_noOp {c : Catalog} {a base : String}
    (unowned : c.entityForAlias? a = none) (made : base ∈ Naming.templateBases a)
    (noOp : c.isNoOp base = true) : classify c a true = .ok .noOp := by
  have some : (Naming.templateBases a).any c.isNoOp = true := List.any_eq_true.mpr ⟨base, made, noOp⟩
  by_cases direct : c.isNoOp a = true
  · simp [classify, direct, pure, Except.pure]
  · simp [classify, direct, unowned, some, pure, Except.pure]

namespace Catalog.Describes

variable {es : List Entity} {c : Catalog} {e : Entity} {a : String}

theorem entityForAlias_tagged (described : c.Describes es) (member : e ∈ es)
    (tagged : e.hasReplacements = true) (emitted : a ∈ Naming.namesFor e.name) :
    c.entityForAlias? a = some e := by
  have found := described.found e member tagged
  simp only [Catalog.entity?] at found
  simp [Catalog.entityForAlias?, described.claimed e member tagged a emitted, found]

theorem entityForAlias_unclaimed (described : c.Describes es)
    (unclaimed : ∀ f ∈ es, f.hasReplacements = true → a ∉ Naming.namesFor f.name) :
    c.entityForAlias? a = none := by
  cases held : c.aliases[a]? with
  | none => simp [Catalog.entityForAlias?, held]
  | some owner =>
    obtain ⟨f, member, tagged, emitted⟩ := described.emitted a owner held
    exact absurd emitted (unclaimed f member tagged)

theorem classify_emitted (described : c.Describes es) (member : e ∈ es) (named : e.name ≠ "")
    (emitted : a ∈ Naming.namesFor e.name) : ∃ d, classify c a true = .ok d := by
  cases tagged : e.hasReplacements with
  | true => exact classify_owned (described.entityForAlias_tagged member tagged emitted)
  | false =>
    -- an untagged entity's name is claimed by a tagged one or is a template's no-op
    cases owned : c.entityForAlias? a with
    | some f => exact classify_owned owned
    | none =>
      exact ⟨_, classify_template_noOp owned (Naming.mem_templateBases emitted named)
        (described.noOp e member tagged)⟩

theorem classify_untagged (described : c.Describes es) (member : e ∈ es)
    (untagged : e.hasReplacements = false) (named : e.name ≠ "")
    (emitted : a ∈ Naming.namesFor e.name)
    (unclaimed : ∀ f ∈ es, f.hasReplacements = true → a ∉ Naming.namesFor f.name) :
    classify c a true = .ok .noOp :=
  classify_template_noOp (described.entityForAlias_unclaimed unclaimed)
    (Naming.mem_templateBases emitted named) (described.noOp e member untagged)

end Catalog.Describes

theorem keptEdits_noOp {source : String} {c : Catalog} {a : TypeAlias}
    (noOp : classify c a.name true = .ok .noOp) : keptEdits c source a = [] := by
  have quiet : aliasRun c source a = pure 0 := by
    unfold aliasRun handleAlias
    cases object : a.object? with
    | none => rfl
    | some obj => simp [noOp]
  simp [keptEdits, quiet, (Scheduling.appendsOnly_pure 0).2.1, (Scheduling.appendsOnly_pure 0).2.2]

/-- The names emitted for a named entity of a catalog that builds are classified without
fault. A name emitted for an untagged entity and for no tagged one is a no-op, and a retype of
a well-formed source leaves every declaration of that name as it was: no edit touches it, and
the output holds its text. -/
theorem generatedNames_classified {es : List Entity} {c : Catalog}
    (built : Catalog.ofEntities es = .ok c) {entity : Entity} (member : entity ∈ es)
    (named : entity.name ≠ "") {a : String} (emitted : a ∈ Naming.namesFor entity.name) :
    (∃ d, classify c a true = .ok d) ∧
    (entity.hasReplacements = false →
      (∀ f ∈ es, f.hasReplacements = true → a ∉ Naming.namesFor f.name) →
      classify c a true = .ok .noOp ∧
      ∀ (parseModule : String → Tree) source, (parseModule source).WellFormed source →
        ∀ out report, retypeSource parseModule source c = .ok (out, report) →
        ∀ d ∈ (walkModule (parseModule source) source).aliases, d.name = a →
          (∀ e ∈ (retypeModule parseModule source c {}).1.edits,
            e.stop ≤ d.node.start ∨ d.node.stop ≤ e.start) ∧
          ∃ pre post, out = pre ++ d.node.text source ++ post) := by
  have described := Catalog.ofEntities_describes built
  refine ⟨described.classify_emitted member named emitted, fun untagged unclaimed => ?_⟩
  have noOp := described.classify_untagged member untagged named emitted unclaimed
  refine ⟨noOp, fun parseModule source wf out report retyped d declared same => ?_⟩
  have quiet : keptEdits c source d = [] := keptEdits_noOp (same ▸ noOp)
  refine ⟨?_, retypeSource_keeps_quiet c wf retyped declared quiet⟩
  rw [freshModule_edits parseModule source c]
  exact moduleEdits_outside_quiet c wf declared quiet

theorem generatedNames_classified_post :
    ∃ c, Catalog.ofEntities [⟨"User", .model, [⟨"settings", "Json", some "PrismaJson.Settings"⟩]⟩, ⟨"Post", .model, [⟨"id", "String", none⟩]⟩] = .ok c ∧
      (⟨"Post", .model, [⟨"id", "String", none⟩]⟩ : Entity) ∈ ([⟨"User", .model, [⟨"settings", "Json", some "PrismaJson.Settings"⟩]⟩, ⟨"Post", .model, [⟨"id", "String", none⟩]⟩] : List Entity) ∧
      "Post" ≠ "" ∧ "PostWhereInput" ∈ Naming.namesFor "Post" ∧
      (∃ d, classify c "PostWhereInput" true = .ok d) ∧
      ((⟨"Post", .model, [⟨"id", "String", none⟩]⟩ : Entity).hasReplacements = false →
        (∀ f ∈ ([⟨"User", .model, [⟨"settings", "Json", some "PrismaJson.Settings"⟩]⟩, ⟨"Post", .model, [⟨"id", "String", none⟩]⟩] : List Entity),
          f.hasReplacements = true → "PostWhereInput" ∉ Naming.namesFor f.name) →
        classify c "PostWhereInput" true = .ok .noOp ∧
        ∀ (parseModule : String → Tree) source, (parseModule source).WellFormed source →
          ∀ out report, retypeSource parseModule source c = .ok (out, report) →
          ∀ d ∈ (walkModule (parseModule source) source).aliases, d.name = "PostWhereInput" →
            (∀ e ∈ (retypeModule parseModule source c {}).1.edits,
              e.stop ≤ d.node.start ∨ d.node.stop ≤ e.start) ∧
            ∃ pre post, out = pre ++ d.node.text source ++ post) := by
  have tagged : (⟨"User", .model, [⟨"settings", "Json", some "PrismaJson.Settings"⟩]⟩ : Entity).hasReplacements = true := by decide
  have untagged : (⟨"Post", .model, [⟨"id", "String", none⟩]⟩ : Entity).hasReplacements = false := by decide
  obtain ⟨c₁, one⟩ : ∃ c, Catalog.ofEntities [⟨"User", .model, [⟨"settings", "Json", some "PrismaJson.Settings"⟩]⟩] = .ok c :=
    ⟨_, Catalog.ofEntities_single tagged⟩
  have built : Catalog.ofEntities [⟨"User", .model, [⟨"settings", "Json", some "PrismaJson.Settings"⟩]⟩, ⟨"Post", .model, [⟨"id", "String", none⟩]⟩] = .ok { c₁ with noOps := c₁.noOps.insert "Post" } := by
    rw [show ([⟨"User", .model, [⟨"settings", "Json", some "PrismaJson.Settings"⟩]⟩, ⟨"Post", .model, [⟨"id", "String", none⟩]⟩] : List Entity) = [⟨"User", .model, [⟨"settings", "Json", some "PrismaJson.Settings"⟩]⟩] ++ [⟨"Post", .model, [⟨"id", "String", none⟩]⟩] from rfl,
      Catalog.ofEntities_append_single, one]
    exact Catalog.add_untagged untagged
  have emitted : "PostWhereInput" ∈ Naming.namesFor "Post" :=
    Naming.mem_namesFor.mpr ⟨"%WhereInput", by simp [Naming.aliasTemplates], by decide⟩
  exact ⟨_, built, by simp, by decide, emitted,
    generatedNames_classified built (by simp) (by decide) emitted⟩

end TypedJson
