import TypedJson.Proofs.Catalog
import TypedJson.Proofs.Rollback
/-!
# Report counters

A pass counts every visited alias under the disposition its name is classified as, counts the
aliases whose handling fails, and counts the fields it retypes. The disposition is counted
before any edit is scheduled and the failure after the fault, so the two counts overlap: an
alias whose name does not classify fails at once and is counted once, as failed, but a payload
that fails after it was classified (it has no scalars, or a relation of it names an unknown
base) is counted both as direct and as failed. The counters therefore add up to the number of
aliases visited plus the number of such payloads. The failure counter equals the number of
failures the report lists, and the fields retyped never exceed the edits scheduled, with none
retyped exactly when no edit is.
-/
namespace TypedJson

open Syntax

def Counted (start finish edits : Nat) : Prop :=
  start ≤ finish ∧ finish ≤ start + edits ∧ (finish = start ↔ edits = 0)

namespace Counted

variable {a b d n m : Nat}

theorem refl (n : Nat) : Counted n n 0 := by
  unfold Counted
  omega

theorem trans (first : Counted a b n) (second : Counted b d m) : Counted a d (n + m) := by
  unfold Counted at *
  omega

theorem shift (counted : Counted a b n) (k : Nat) : Counted (k + a) (k + b) n := by
  unfold Counted at *
  omega

theorem item {changed : Bool} {es : List Edit} (changes : changed = !es.isEmpty) :
    Counted 0 (if changed then 1 else 0) es.length := by
  cases es with
  | nil => simp [changes, refl]
  | cons e es => simp [changes, Counted]

end Counted

theorem counted_countP {α : Type} {p : α → Bool} {g : α → List Edit} :
    ∀ xs : List α, (∀ x ∈ xs, p x = !(g x).isEmpty) →
      Counted 0 (xs.countP p) (xs.flatMap g).length
  | [], _ => Counted.refl 0
  | x :: xs, each => by
    have head := Counted.item (each x (List.mem_cons_self ..))
    have tail := counted_countP xs fun y member => each y (List.mem_cons_of_mem x member)
    rw [List.countP_cons, List.flatMap_cons, List.length_append, Nat.add_comm (xs.countP p)]
    exact head.trans (tail.shift _)

variable {source : String} {parseModule : String → Tree}

theorem Blob.retypeType_changed (ty : Node) (target : String) :
    (Blob.retypeType ty target source {}).2 = !(Blob.typeEdits ty target source).isEmpty := by
  unfold Blob.retypeType Blob.typeEdits
  split <;> simp

theorem fieldRetyped_eq (entity : Entity) (prop : Property) :
    fieldRetyped entity source prop = !(fieldEdits entity source prop).isEmpty := by
  unfold fieldRetyped fieldEdits
  split
  · exact Blob.retypeType_changed _ _
  · rfl

theorem memberRetyped_eq (target : String) (prop : Property) :
    memberRetyped target source prop = !(memberEdits target source prop).isEmpty := by
  unfold memberRetyped memberEdits
  split
  · exact Blob.retypeType_changed _ _
  · rfl

theorem objectEdits_counted (obj : Node) (entity : Entity) :
    Counted 0 ((objectProperties obj source).countP (fieldRetyped entity source))
      ((objectProperties obj source).flatMap (fieldEdits entity source)).length :=
  counted_countP _ fun prop _ => fieldRetyped_eq entity prop

theorem wrapperEdits_counted (obj : Node) (field : Field) :
    Counted 0 (wrapperRetyped obj field source) (wrapperEdits obj field source).length := by
  unfold wrapperRetyped wrapperEdits
  split
  · exact Counted.refl 0
  · exact counted_countP _ fun prop _ => memberRetyped_eq _ prop

namespace Scheduling

variable {α β γ : Type}

def Tallies (count : α → Nat) (start : Nat) (m : Scheduling α) : Prop :=
  m.AppendsOnly ∧ ∀ a, m.outcome = .ok a → Counted start (count a) m.edits.length

section Tallies

variable {count : α → Nat} {count' : β → Nat} {start : Nat}

theorem tallies_pure {a : α} (same : count a = start) :
    (pure a : Scheduling α).Tallies count start := by
  obtain ⟨appends, gives, none⟩ := appendsOnly_pure a
  refine ⟨appends, fun a' succeeded => ?_⟩
  rw [gives] at succeeded
  cases succeeded
  rw [none, same]
  exact Counted.refl start

theorem tallies_throw (e : Error) : (throw e : Scheduling α).Tallies count start := by
  obtain ⟨appends, fails, _⟩ :=
    (appendsOnly_throw e : (throw e : Scheduling α).AppendsOnly ∧ _)
  refine ⟨appends, fun a succeeded => ?_⟩
  rw [fails] at succeeded
  cases succeeded

theorem tallies_liftExcept (x : Except Error α) :
    (liftExcept x : Scheduling α).Tallies (fun _ => start) start := by
  obtain ⟨appends, _, none⟩ := appendsOnly_liftExcept x
  refine ⟨appends, fun _ _ => ?_⟩
  rw [none]
  exact Counted.refl start

theorem tallies_modifyGet {f : Patch → α × Patch} {a : α} {es : List Edit}
    (appends : ∀ patch : Patch, f patch = (a, ⟨patch.edits ++ es⟩))
    (counted : Counted start (count a) es.length) :
    (modifyGet f : Scheduling α).Tallies count start := by
  obtain ⟨appendsOnly, gives, scheduled⟩ := appendsOnly_modifyGet appends
  refine ⟨appendsOnly, fun a' succeeded => ?_⟩
  rw [gives] at succeeded
  cases succeeded
  rw [scheduled]
  exact counted

theorem tallies_bind {m : Scheduling α} {f : α → Scheduling β} (first : m.Tallies count start)
    (next : ∀ a, (f a).Tallies count' (count a)) : (m >>= f).Tallies count' start := by
  have appends := fun a => (next a).1
  refine ⟨appendsOnly_bind first.1 appends, fun b succeeded => ?_⟩
  rw [outcome_bind first.1 appends] at succeeded
  split at succeeded
  · next a firstSucceeded =>
    rw [edits_bind first.1 appends, firstSucceeded, List.length_append]
    exact (first.2 a firstSucceeded).trans ((next a).2 b succeeded)
  · cases succeeded

theorem Tallies.shift {m : Scheduling α} (tallies : m.Tallies count start) (k : Nat) :
    m.Tallies (fun a => k + count a) (k + start) :=
  ⟨tallies.1, fun a succeeded => (tallies.2 a succeeded).shift k⟩

theorem tallies_forIn {xs : List γ} {f : γ → β → Scheduling (ForInStep β)}
    {count : β → Nat}
    (body : ∀ x ∈ xs, ∀ b, (f x b).Tallies (fun step => count step.value) (count b))
    (b : β) :
    (forIn xs b f).Tallies count (count b) := by
  induction xs generalizing b with
  | nil => exact tallies_pure rfl
  | cons x xs ih =>
    rw [List.forIn_cons]
    refine tallies_bind (body x (List.mem_cons_self ..) b) fun step => ?_
    -- a round that stops ends the loop with its state; one that goes on runs the rest
    cases step with
    | done b' => exact tallies_pure rfl
    | yield b' => exact ih (fun y member => body y (List.mem_cons_of_mem x member)) b'

end Tallies

end Scheduling

open Scheduling

theorem retypeObject_tallies (obj : Node) (entity : Entity) :
    (modifyGet fun patch => (retypeObject obj entity source patch).swap : Scheduling Nat).Tallies
      id 0 :=
  tallies_modifyGet (retypeObject_swap obj entity) (objectEdits_counted obj entity)

theorem retypeListWrapper_tallies (obj : Node) (field : Field) :
    (modifyGet fun patch => (retypeListWrapper obj field source patch).swap :
      Scheduling Nat).Tallies id 0 :=
  tallies_modifyGet (retypeListWrapper_swap obj field) (wrapperEdits_counted obj field)

mutual

theorem retypePayload_tallies (c : Catalog) (source : String) :
    ∀ fuel aliasName payload entity,
      (retypePayload c source fuel aliasName payload entity).Tallies id 0
  | 0, _, _, _ => tallies_pure rfl
  | fuel + 1, aliasName, payload, entity => by
    rw [retypePayload.eq_2]
    split
    · refine tallies_bind (retypeObject_tallies _ entity) fun n => ?_
      refine tallies_bind (tallies_forIn (fun member _ n => ?_) n) fun _ => tallies_pure rfl
      split
      · split
        · exact tallies_pure rfl
        · refine tallies_bind (tallies_forIn (fun relation _ n => ?_) n) fun _ => tallies_pure rfl
          split
          · refine tallies_bind (tallies_forIn (fun nested _ n => ?_) n) fun _ => tallies_pure rfl
            refine tallies_bind (tallies_liftExcept _) fun resolved => ?_
            split
            · -- a nested shape's fields add to the count the loop carries
              exact tallies_bind ((retypeEntityObject_tallies c source fuel _ nested _).shift n)
                fun k => tallies_pure rfl
            · exact tallies_pure rfl
          · exact tallies_pure rfl
      · exact tallies_pure rfl
    · exact tallies_throw _

theorem retypeEntityObject_tallies (c : Catalog) (source : String) :
    ∀ fuel name obj entity, (retypeEntityObject c source fuel name obj entity).Tallies id 0
  | 0, _, _, _ => tallies_pure rfl
  | fuel + 1, name, obj, entity => by
    rw [retypeEntityObject.eq_2]
    split
    · exact retypePayload_tallies c source fuel name obj entity
    · exact retypeObject_tallies obj entity

end

theorem aliasRun_tallies (c : Catalog) (a : TypeAlias) : (aliasRun c source a).Tallies id 0 := by
  unfold aliasRun handleAlias
  split
  · exact tallies_throw _
  · split
    · exact tallies_pure rfl
    · split
      · exact tallies_pure rfl
      · exact tallies_pure rfl
      · exact tallies_pure rfl
      · exact retypePayload_tallies c source _ _ _ _
      · exact retypeObject_tallies _ _
      · exact retypeListWrapper_tallies _ _

def Stats.classified (s : Stats) : Nat :=
  s.nonCandidates + s.noOps + s.direct + s.fallback + s.unresolved

def classifies (c : Catalog) (a : TypeAlias) : Bool :=
  (classify c a.name a.object?.isSome).isOk

theorem handleAlias_stats (c : Catalog) (a : TypeAlias) (stats : Stats) :
    (handleAlias c source a stats).1.classified =
        stats.classified + (if classifies c a then 1 else 0) ∧
      (handleAlias c source a stats).1.failed = stats.failed ∧
      (handleAlias c source a stats).1.fieldsRetyped = stats.fieldsRetyped := by
  unfold handleAlias classifies
  cases classified : classify c a.name a.object?.isSome with
  | error e => simp [Except.isOk, Except.toBool]
  | ok d =>
    cases found : a.object? with
    | none => simp [Stats.classified, Except.isOk, Except.toBool]; omega
    | some obj =>
      cases d with
      | object entity resolution =>
        cases resolution <;> simp [Stats.classified, Except.isOk, Except.toBool] <;> omega
      | _ =>
        simp [Stats.classified, Except.isOk, Except.toBool]
        omega

structure Tallied (c : Catalog) (source : String) (aliases : List TypeAlias)
    (before after : Report) : Prop where
  classified : after.stats.classified = before.stats.classified + aliases.countP (classifies c)
  failed : after.stats.failed =
    before.stats.failed + aliases.countP fun a => (aliasFailure? c source a).isSome
  fields : Counted before.stats.fieldsRetyped after.stats.fieldsRetyped
    (aliases.flatMap (keptEdits c source)).length

namespace Tallied

variable {c : Catalog} {xs ys : List TypeAlias} {r₁ r₂ r₃ : Report}

theorem nil (report : Report) : Tallied c source [] report report :=
  ⟨rfl, rfl, Counted.refl _⟩

theorem append (first : Tallied c source xs r₁ r₂) (second : Tallied c source ys r₂ r₃) :
    Tallied c source (xs ++ ys) r₁ r₃ := by
  refine ⟨?_, ?_, ?_⟩
  · rw [second.classified, first.classified, List.countP_append, Nat.add_assoc]
  · rw [second.failed, first.failed, List.countP_append, Nat.add_assoc]
  · rw [List.flatMap_append, List.length_append]
    exact first.fields.trans second.fields

end Tallied

theorem visitAlias_tallied (c : Catalog) (a : TypeAlias) (patch : Patch) (report report' : Report)
    (visited : (visitAlias c source a (patch, report)).2 = .ok report') :
    Tallied c source [a] report report' := by
  obtain ⟨counted, failedSame, fieldsSame⟩ := @handleAlias_stats source c a report.stats
  obtain ⟨appends, confined⟩ := (aliasRun_sound c a : (aliasRun c source a).Sound _)
  unfold visitAlias at visited
  dsimp only at visited
  rw [handleAlias_run, appends patch] at visited
  cases outcome : (aliasRun c source a).outcome with
  | ok n =>
    rw [outcome] at visited
    cases visited
    have fields := ((aliasRun_tallies c a).2 n outcome).shift report.stats.fieldsRetyped
    refine ⟨?_, ?_, ?_⟩
    · rw [List.countP_singleton]
      exact counted
    · simp [aliasFailure?, outcome, failedSame]
    · rw [fieldsSame, List.flatMap_singleton]
      simp only [keptEdits, outcome]
      exact fields
  | error e =>
    -- the fault is confined to the alias, so the pass records it and goes on
    rw [outcome] at visited
    simp only [confined e outcome, if_true] at visited
    cases visited
    refine ⟨?_, ?_, ?_⟩
    · rw [List.countP_singleton]
      exact counted
    · simp [aliasFailure?, outcome, failedSame]
    · rw [fieldsSame, List.flatMap_singleton]
      simp only [keptEdits, outcome]
      exact Counted.refl _

theorem visitAll_tallied (c : Catalog) (aliases : List TypeAlias) (patch : Patch)
    (report report' : Report)
    (visited : (visitAll c source aliases (patch, report)).2 = .ok report') :
    Tallied c source aliases report report' := by
  induction aliases generalizing patch report with
  | nil =>
    simp only [visitAll, Except.ok.injEq] at visited
    subst visited
    exact Tallied.nil report
  | cons a rest ih =>
    obtain ⟨first, firstEq, _⟩ := visitAlias_eq c source a patch report
    rw [visitAll, firstEq] at visited
    exact (visitAlias_tallied c a patch report first (by rw [firstEq])).append (ih _ first visited)

theorem retypeModule_tallied {c : Catalog} {patch : Patch} {report : Report}
    (succeeded : (retypeModule parseModule source c patch).2 = .ok report) :
    Tallied c source (walkModule (parseModule source) source).aliases {} report := by
  obtain ⟨visitedReport, visited, _⟩ :=
    visitAll_eq c source (walkModule (parseModule source) source).aliases patch {}
  have tallied := visitAll_tallied c _ patch {} visitedReport (by rw [visited])
  unfold retypeModule at succeeded
  simp only [visited] at succeeded
  cases fault : (walkModule (parseModule source) source).fault with
  | some e => simp [fault] at succeeded
  | none =>
    simp only [fault, Except.ok.injEq] at succeeded
    subst succeeded
    exact ⟨tallied.classified, tallied.failed, tallied.fields⟩

theorem aliasFailure_of_unclassified {c : Catalog} {a : TypeAlias}
    (unclassified : classifies c a = false) : (aliasFailure? c source a).isSome := by
  unfold classifies at unclassified
  cases classified : classify c a.name a.object?.isSome with
  | ok d => simp [classified, Except.isOk, Except.toBool] at unclassified
  | error e =>
    have fails : (aliasRun c source a).outcome = .error e := by
      unfold aliasRun handleAlias
      rw [classified]
      exact (appendsOnly_throw e).2.1
    simp [aliasFailure?, fails]

theorem payload_of_classified_failure {c : Catalog} {a : TypeAlias}
    (classified : classifies c a = true) (failed : (aliasFailure? c source a).isSome) :
    ∃ entity, classify c a.name true = .ok (.payload entity) := by
  unfold classifies at classified
  cases result : classify c a.name a.object?.isSome with
  | error e => simp [result, Except.isOk, Except.toBool] at classified
  | ok d =>
    by_contra notPayload
    have never : (aliasRun c source a).Sound fun _ => False := by
      unfold aliasRun handleAlias
      simp only [result]
      cases found : a.object? with
      | none => exact sound_pure 0
      | some obj =>
        rw [found, Option.isSome_some] at result
        cases d with
        | payload entity => exact absurd ⟨entity, result⟩ notPayload
        | object entity resolution => exact sound_modifyGet (retypeObject_swap _ _)
        | listField entity field => exact sound_modifyGet (retypeListWrapper_swap _ _)
        | _ => exact sound_pure 0
    unfold aliasFailure? at failed
    split at failed
    · simp at failed
    · next e failedEq => exact never.2 e failedEq

theorem countP_classified_add_failed (c : Catalog) (aliases : List TypeAlias) :
    aliases.countP (classifies c) + aliases.countP (fun a => (aliasFailure? c source a).isSome) =
      aliases.length +
        aliases.countP fun a => classifies c a && (aliasFailure? c source a).isSome := by
  induction aliases with
  | nil => rfl
  | cons a rest ih =>
    have covered : classifies c a = false → (aliasFailure? c source a).isSome :=
      aliasFailure_of_unclassified
    simp only [List.countP_cons, List.length_cons]
    cases hc : classifies c a <;> cases hf : (aliasFailure? c source a).isSome
    · -- a name that does not classify fails
      have fails := covered hc
      rw [hf] at fails
      cases fails
    all_goals
      simp only [Bool.and_true, Bool.and_false, if_true, if_false, Bool.false_eq_true]
      omega

theorem retypeModule_ok {c : Catalog} {patch : Patch}
    (clean : (walkModule (parseModule source) source).fault = none) :
    ∃ report, (retypeModule parseModule source c patch).2 = .ok report := by
  cases result : (retypeModule parseModule source c patch).2 with
  | error e =>
    have fault := ((retypeModule_result parseModule source c patch).1 e).mp result
    rw [clean] at fault
    cases fault
  | ok report => exact ⟨report, rfl⟩

theorem Naming.payloadName_mem_namesFor (entity : String) :
    Naming.payloadName entity ∈ Naming.namesFor entity := by
  refine Naming.mem_namesFor.mpr ⟨"$%Payload", by decide, ?_⟩
  rw [← String.toList_inj, Naming.instantiate_toList entity
    (show "$%Payload".toList = ['$'] ++ '%' :: "Payload".toList from rfl) (by decide) (by decide)]
  simp [Naming.payloadName]

theorem classify_payload_single {e : Entity} {c : Catalog} (tagged : e.hasReplacements = true)
    (built : Catalog.ofEntities [e] = .ok c) :
    classify c (Naming.payloadName e.name) true = .ok (.payload e) := by
  rw [Catalog.ofEntities_single tagged] at built
  obtain ⟨⟩ := Except.ok.inj built
  have owned : Catalog.entityForAlias? ⟨Catalog.claimAll e.name (Naming.namesFor e.name) ∅,
      (∅ : Std.HashMap String Entity).insert e.name e, ∅⟩ (Naming.payloadName e.name) =
        some e := by
    simp [Catalog.entityForAlias?,
      Catalog.claimAll_lookup _ _ _ (Naming.payloadName_mem_namesFor _)]
  simp only [classify, Bool.not_true, Bool.false_eq_true, if_false, Catalog.isNoOp,
    Std.HashSet.contains_empty, owned, beq_self_eq_true, if_true]
  rfl

theorem aliasRun_missingScalars {c : Catalog} {a : TypeAlias} {obj : Node} {e : Entity}
    (found : a.object? = some obj) (classified : classify c a.name true = .ok (.payload e))
    (noScalars : objectProperty? obj "scalars" source = none) :
    (aliasRun c source a).outcome = .error (.missingScalars a.name) := by
  unfold aliasRun handleAlias
  simp only [found, Option.isSome_some, classified]
  rw [show 2 * a.node.height + 2 = 2 * a.node.height + 1 + 1 from rfl, retypePayload.eq_2]
  simp only [noScalars, Option.bind_none]
  exact (appendsOnly_throw _).2.1

def taggedUser : Entity := ⟨"User", .model, [⟨"a", "Json", some "PrismaJson.A"⟩]⟩

def userPayloadModule : String := "type $UserPayload = \x7b name: \"User\" \x7d"

theorem userPayload_fails {c : Catalog} (built : Catalog.ofEntities [taggedUser] = .ok c) :
    (walkModule (parse userPayloadModule) userPayloadModule).fault = none ∧
    ∃ a, (walkModule (parse userPayloadModule) userPayloadModule).aliases = [a] ∧
      classifies c a = true ∧
      aliasFailure? c userPayloadModule a =
        some ⟨"$UserPayload", "payload `$UserPayload` has no scalars object"⟩ := by
  have classified := classify_payload_single (by decide) built
  rw [show Naming.payloadName taggedUser.name = "$UserPayload" by decide +kernel] at classified
  -- the module declares no namespace, so its walk is its statements' aliases
  have walked := @walkModule_flat userPayloadModule (parse userPayloadModule) (by decide +kernel)
  obtain ⟨a, single⟩ := List.length_eq_one_iff.mp (by decide +kernel :
    ((parse userPayloadModule).root.children.filterMap
      (statementAlias? userPayloadModule)).length = 1)
  obtain ⟨⟨named, isObject⟩, noScalars⟩ :
      (a.name = "$UserPayload" ∧ a.object?.isSome = true) ∧
        objectProperty? a.value "scalars" userPayloadModule = none := by
    have facts : ((parse userPayloadModule).root.children.filterMap
        (statementAlias? userPayloadModule)).all (fun a => a.name == "$UserPayload" &&
          a.object?.isSome && (objectProperty? a.value "scalars" userPayloadModule).isNone) =
            true := by
      decide +kernel
    rw [single, List.all_cons, List.all_nil, Bool.and_true] at facts
    simpa using facts
  obtain ⟨obj, found⟩ := Option.isSome_iff_exists.mp isObject
  have payload : classify c a.name true = .ok (.payload taggedUser) := by
    rw [named]
    exact classified
  have failure := aliasRun_missingScalars found payload (TypeAlias.object_eq found ▸ noScalars)
  refine ⟨by rw [walked], a, by rw [walked, single], ?_, ?_⟩
  · simp [classifies, isObject, payload, Except.isOk, Except.toBool]
  · simp only [aliasFailure?, failure, named]
    rfl

/-- What the counters of a pass that succeeds count. The five disposition counters count the
visited aliases whose names classify, and the failure counter those whose handling fails, one
listed failure for each. Every alias is counted, and counted twice exactly when it classifies
and then fails, which only a payload does. The fields retyped never exceed the edits the
report counts, and none is retyped exactly when no edit is scheduled. -/
theorem retypeModule_counts (parseModule : String → Tree) (source : String) (c : Catalog) (patch : Patch) (report : Report)
    (succeeded : (retypeModule parseModule source c patch).2 = .ok report) :
    report.stats.classified = (walkModule (parseModule source) source).aliases.countP (classifies c) ∧
    report.stats.failed = (walkModule (parseModule source) source).aliases.countP
      (fun a => (aliasFailure? c source a).isSome) ∧
    report.stats.failed = report.failures.length ∧
    report.stats.nonCandidates + report.stats.noOps + report.stats.direct +
        report.stats.fallback + report.stats.unresolved + report.stats.failed =
      (walkModule (parseModule source) source).aliases.length +
        (walkModule (parseModule source) source).aliases.countP
          (fun a => classifies c a && (aliasFailure? c source a).isSome) ∧
    (∀ a ∈ (walkModule (parseModule source) source).aliases, classifies c a = true →
      (aliasFailure? c source a).isSome = true →
        ∃ entity, classify c a.name true = .ok (.payload entity)) ∧
    report.stats.fieldsRetyped ≤ report.edits ∧
    (report.stats.fieldsRetyped = 0 ↔ report.edits = 0) := by
  have tallied := retypeModule_tallied succeeded
  obtain ⟨failures, edits⟩ := (retypeModule_result parseModule source c patch).2 report succeeded
  have classified := tallied.classified.trans (Nat.zero_add _)
  have failed := tallied.failed.trans (Nat.zero_add _)
  have fields : Counted 0 report.stats.fieldsRetyped report.edits := by
    rw [edits]
    exact tallied.fields
  refine ⟨classified, failed, ?_, ?_, fun a _ => payload_of_classified_failure, ?_⟩
  · rw [failures, List.length_filterMap_eq_countP]
    exact failed
  · show report.stats.classified + report.stats.failed = _
    rw [classified, failed]
    exact countP_classified_add_failed c _
  · unfold Counted at fields
    omega

theorem retypeModule_counts_userPayload :
    ∃ c report, Catalog.ofEntities [taggedUser] = .ok c ∧
      (retypeModule parse userPayloadModule c {}).2 = .ok report ∧
      report.stats.classified =
        (walkModule (parse userPayloadModule) userPayloadModule).aliases.countP (classifies c) ∧
      report.stats.failed = (walkModule (parse userPayloadModule) userPayloadModule).aliases.countP
        (fun a => (aliasFailure? c userPayloadModule a).isSome) ∧
      report.stats.failed = report.failures.length ∧
      report.stats.nonCandidates + report.stats.noOps + report.stats.direct +
          report.stats.fallback + report.stats.unresolved + report.stats.failed =
        (walkModule (parse userPayloadModule) userPayloadModule).aliases.length +
          (walkModule (parse userPayloadModule) userPayloadModule).aliases.countP
            (fun a => classifies c a && (aliasFailure? c userPayloadModule a).isSome) ∧
      (∀ a ∈ (walkModule (parse userPayloadModule) userPayloadModule).aliases,
        classifies c a = true → (aliasFailure? c userPayloadModule a).isSome = true →
          ∃ entity, classify c a.name true = .ok (.payload entity)) ∧
      report.stats.fieldsRetyped ≤ report.edits ∧
      (report.stats.fieldsRetyped = 0 ↔ report.edits = 0) := by
  obtain ⟨c, catalog⟩ : ∃ c, Catalog.ofEntities [taggedUser] = .ok c :=
    ⟨_, Catalog.ofEntities_single (by decide)⟩
  obtain ⟨report, succeeded⟩ :
      ∃ report, (retypeModule parse userPayloadModule c {}).2 = .ok report :=
    retypeModule_ok (userPayload_fails catalog).1
  exact ⟨c, report, catalog, succeeded, retypeModule_counts parse _ c {} report succeeded⟩

/-- A payload that fails after it was classified is counted twice. With the field `a` of
`User` tagged `A`, the pass over `userPayloadModule` succeeds with the one failure listed, and
the six counters add up to two for the one alias it visits. -/
theorem retypeModule_counts_failed_payload_twice :
    ∃ dm c, Datamodel.fromJson ("\x7b\"models\": [\x7b\"name\": \"User\", \"fields\": " ++
        "[\x7b\"name\": \"a\", \"type\": \"Json\", \"documentation\": \"[A]\"\x7d]\x7d], " ++
        "\"types\": []\x7d") = .ok dm ∧
      Catalog.build dm {} = .ok c ∧
      (walkModule (parse userPayloadModule) userPayloadModule).aliases.length = 1 ∧
      ∃ report, (retypeModule parse userPayloadModule c {}).2 = .ok report ∧
        report.failures = [⟨"$UserPayload", "payload `$UserPayload` has no scalars object"⟩] ∧
        report.stats.nonCandidates + report.stats.noOps + report.stats.direct +
          report.stats.fallback + report.stats.unresolved + report.stats.failed = 2 := by
  -- the schema decodes to the one model `User`, whose field `a` is tagged `A`
  have decoded : Datamodel.fromJson ("\x7b\"models\": [\x7b\"name\": \"User\", \"fields\": " ++
      "[\x7b\"name\": \"a\", \"type\": \"Json\", \"documentation\": \"[A]\"\x7d]\x7d], " ++
      "\"types\": []\x7d") = .ok ⟨[⟨"User", [⟨"a", "Json", some "[A]"⟩]⟩], []⟩ := by
    decide +kernel
  have resolved :
      Entity.fromSchema ⟨"User", [⟨"a", "Json", some "[A]"⟩]⟩ .model {} = taggedUser := by
    decide +kernel
  obtain ⟨c, catalog⟩ : ∃ c, Catalog.ofEntities [taggedUser] = .ok c :=
    ⟨_, Catalog.ofEntities_single (by decide)⟩
  obtain ⟨clean, a, single, classified, failure⟩ := userPayload_fails catalog
  obtain ⟨report, succeeded⟩ :
      ∃ report, (retypeModule parse userPayloadModule c {}).2 = .ok report :=
    retypeModule_ok clean
  have tallied := retypeModule_tallied succeeded
  rw [single] at tallied
  refine ⟨_, c, decoded, ?_, by rw [single]; rfl, report, succeeded, ?_, ?_⟩
  · rw [Catalog.build, List.map_singleton, List.map_nil, List.append_nil, resolved]
    exact catalog
  · rw [((retypeModule_result parse _ c {}).2 report succeeded).1, single, List.filterMap_cons, failure,
      List.filterMap_nil]
  · -- the alias is counted under its disposition and as failed
    have counted := tallied.classified
    have failed := tallied.failed
    simp only [List.countP_singleton, classified, if_true] at counted
    simp only [List.countP_singleton, failure, Option.isSome_some, if_true] at failed
    show report.stats.classified + report.stats.failed = 2
    rw [counted, failed]
    rfl

end TypedJson
