import TypedJson.Proofs.Payload
import TypedJson.Proofs.Splice
import TypedJson.Proofs.Walk
import TypedJson.Retype.Pass
/-!
# Rolling back a failed declaration

The pass visits the type aliases of a module in order. Every fault met while handling one
alias is confined to it, so no alias stops the pass; and since handling an alias only appends
to the patch, cutting the patch back to its length before the alias undoes exactly that alias.
The patch a module leaves is therefore the one it started from followed by the edits of the
aliases that succeeded, in order, and the report lists the others in order.
-/
namespace TypedJson

open Syntax Scheduling

variable {source : String} {parseModule : String → Tree}

def aliasRun (c : Catalog) (source : String) (a : TypeAlias) : Scheduling Nat :=
  (handleAlias c source a {}).2

theorem handleAlias_run (c : Catalog) (a : TypeAlias) (stats : Stats) :
    (handleAlias c source a stats).2 = aliasRun c source a := by
  unfold aliasRun handleAlias
  split
  · rfl
  · split
    · rfl
    · split <;> rfl

theorem TypeAlias.object_eq {a : TypeAlias} {obj : Node} (found : a.object? = some obj) :
    obj = a.value := by
  unfold TypeAlias.object? at found
  split at found
  · exact (Option.some.inj found).symm
  · cases found

theorem aliasRun_sound (c : Catalog) (a : TypeAlias) :
    (aliasRun c source a).Sound (·.isStatementLocal = true) := by
  unfold aliasRun handleAlias
  split
  · next e failed =>
    obtain ⟨base, pattern, rfl⟩ := classify_error failed
    exact sound_throw rfl
  · split
    · exact sound_pure 0
    · split
      · exact sound_pure 0
      · exact sound_pure 0
      · exact sound_pure 0
      · exact retypePayload_sound c source _ _ _ _
      · exact sound_modifyGet (retypeObject_swap _ _)
      · exact sound_modifyGet (retypeListWrapper_swap _ _)

theorem aliasRun_confined (c : Catalog) {a : TypeAlias}
    (wf : a.value.wellFormed source = true) :
    (aliasRun c source a).Confined (Edit.Fits source a.value.start a.value.stop) := by
  unfold aliasRun handleAlias
  split
  · exact confined_throw _
  · split
    · exact confined_pure 0
    · next obj found =>
      have same := TypeAlias.object_eq found
      subst same
      split
      · exact confined_pure 0
      · exact confined_pure 0
      · exact confined_pure 0
      · exact retypePayload_confined c _ _ _ _ wf
      · exact confined_modifyGet (retypeObject_swap _ _) (objectEdits_placed _ wf)
      · exact confined_modifyGet (retypeListWrapper_swap _ _) (wrapperEdits_placed _ wf)

def keptEdits (c : Catalog) (source : String) (a : TypeAlias) : List Edit :=
  match (aliasRun c source a).outcome with
  | .ok _ => (aliasRun c source a).edits
  | .error _ => []

def aliasFailure? (c : Catalog) (source : String) (a : TypeAlias) : Option StatementFailure :=
  match (aliasRun c source a).outcome with
  | .ok _ => none
  | .error e => some ⟨a.name, e.message⟩

theorem visitAlias_eq (c : Catalog) (source : String) (a : TypeAlias) (patch : Patch) (report : Report) :
    ∃ report', visitAlias c source a (patch, report) =
        (⟨patch.edits ++ keptEdits c source a⟩, .ok report') ∧
      report'.failures = report.failures ++ (aliasFailure? c source a).toList := by
  obtain ⟨appends, confined⟩ := (aliasRun_sound c a : (aliasRun c source a).Sound _)
  unfold visitAlias
  dsimp only
  rw [handleAlias_run, appends patch]
  unfold keptEdits aliasFailure?
  cases outcome : (aliasRun c source a).outcome with
  | ok n => exact ⟨_, rfl, by simp⟩
  | error e =>
    -- a confined fault cuts the patch back to the edits before the alias
    simp only [confined e outcome, if_true, Patch.truncate, Patch.len, List.take_left,
      List.append_nil]
    exact ⟨_, rfl, by simp⟩

theorem visitAll_eq (c : Catalog) (source : String) (aliases : List TypeAlias) (patch : Patch) (report : Report) :
    ∃ report', visitAll c source aliases (patch, report) =
        (⟨patch.edits ++ aliases.flatMap (keptEdits c source)⟩, .ok report') ∧
      report'.failures = report.failures ++ aliases.filterMap (aliasFailure? c source) := by
  induction aliases generalizing patch report with
  | nil => exact ⟨report, by simp [visitAll], by simp⟩
  | cons a rest ih =>
    obtain ⟨visited, visitedEq, visitedFailures⟩ := visitAlias_eq c source a patch report
    obtain ⟨final, finalEq, finalFailures⟩ := ih ⟨patch.edits ++ keptEdits c source a⟩ visited
    refine ⟨final, ?_, ?_⟩
    · rw [visitAll, visitedEq]
      simp only [finalEq, List.append_assoc, List.flatMap_cons]
    · rw [finalFailures, visitedFailures, List.filterMap_cons]
      cases aliasFailure? c source a <;> simp

theorem retypeModule_patch (parseModule : String → Tree) (source : String) (c : Catalog)
    (patch : Patch) :
    (retypeModule parseModule source c patch).1 = ⟨patch.edits ++
      (walkModule (parseModule source) source).aliases.flatMap (keptEdits c source)⟩ := by
  obtain ⟨report, visited, _⟩ :=
    visitAll_eq c source (walkModule (parseModule source) source).aliases patch {}
  unfold retypeModule
  simp only [visited]
  split <;> rfl

theorem retypeModule_result (parseModule : String → Tree) (source : String) (c : Catalog)
    (patch : Patch) :
    (∀ e, (retypeModule parseModule source c patch).2 = .error e ↔
      (walkModule (parseModule source) source).fault = some e) ∧
    ∀ report, (retypeModule parseModule source c patch).2 = .ok report →
      report.failures =
          (walkModule (parseModule source) source).aliases.filterMap (aliasFailure? c source) ∧
        report.edits =
          ((walkModule (parseModule source) source).aliases.flatMap (keptEdits c source)).length := by
  obtain ⟨visitedReport, visited, failures⟩ :=
    visitAll_eq c source (walkModule (parseModule source) source).aliases patch {}
  unfold retypeModule
  simp only [visited]
  cases fault : (walkModule (parseModule source) source).fault with
  | some e' =>
    refine ⟨fun e => ?_, fun report failed => ?_⟩
    · simp
    · cases failed
  | none =>
    refine ⟨fun e => ?_, fun report succeeded => ?_⟩
    · simp
    · cases succeeded
      refine ⟨by simpa using failures, ?_⟩
      simp [Patch.len]

theorem keptEdits_placed (c : Catalog) {a : TypeAlias} (wf : a.node.wellFormed source = true)
    (value : a.value ∈ a.node.children) :
    Placed source a.node.start a.node.stop (keptEdits c source a) := by
  have inside := Node.child_inside wf value
  unfold keptEdits
  split
  · obtain ⟨_, fits, apart⟩ := aliasRun_confined c (Node.child_wellFormed wf value)
    exact Placed.mono inside.1 inside.2.2 ⟨fits, apart⟩
  · exact Placed.nil _ _

theorem moduleEdits_placed (c : Catalog) (wf : (parseModule source).WellFormed source) :
    Placed source (parseModule source).root.start (parseModule source).root.stop
      ((walkModule (parseModule source) source).aliases.flatMap (keptEdits c source)) := by
  obtain ⟨ordered, good⟩ := walkModule_aliases wf
  refine Placed.flatMap ordered _ fun a member => ?_
  exact keptEdits_placed c (good a member).1 (good a member).2

theorem keptEdits_failed {c : Catalog} {a : TypeAlias} (failed : (aliasFailure? c source a).isSome) :
    keptEdits c source a = [] := by
  unfold aliasFailure? at failed
  unfold keptEdits
  split
  · next outcome => simp [outcome] at failed
  · rfl

theorem moduleEdits_outside_quiet (c : Catalog) (wf : (parseModule source).WellFormed source)
    {a : TypeAlias} (member : a ∈ (walkModule (parseModule source) source).aliases)
    (quiet : keptEdits c source a = []) :
    ∀ e ∈ (walkModule (parseModule source) source).aliases.flatMap (keptEdits c source),
      e.stop ≤ a.node.start ∨ a.node.stop ≤ e.start := by
  obtain ⟨ordered, good⟩ := walkModule_aliases wf
  intro e kept
  obtain ⟨b, bMember, bKept⟩ := List.mem_flatMap.mp kept
  -- the edit belongs to an alias that keeps edits, so to another declaration
  have different : b ≠ a := by
    rintro rfl
    rw [quiet] at bKept
    cases bKept
  obtain ⟨bStart, _, bStop, _⟩ :=
    (keptEdits_placed c (good b bMember).1 (good b bMember).2).1 e bKept
  rcases ordered.apart bMember member different rfl rfl with before | after
  · exact .inl (Nat.le_trans bStop before)
  · exact .inr (Nat.le_trans after bStart)

theorem flatMap_keptEdits (c : Catalog) (aliases : List TypeAlias) :
    aliases.flatMap (keptEdits c source) =
      (aliases.filter fun a => (aliasFailure? c source a).isNone).flatMap
        fun a => (aliasRun c source a).edits := by
  induction aliases with
  | nil => rfl
  | cons a rest ih =>
    rw [List.flatMap_cons, ih, List.filter_cons]
    unfold keptEdits aliasFailure?
    split <;> simp_all

theorem retypeSource_ok {c : Catalog} {out : String} {report : Report}
    (retyped : retypeSource parseModule source c = .ok (out, report)) :
    (retypeModule parseModule source c {}).2 = .ok report ∧
      (retypeModule parseModule source c {}).1.apply source = .ok out := by
  unfold retypeSource at retyped
  generalize retypeModule parseModule source c {} = visited at retyped ⊢
  obtain ⟨patch, result⟩ := visited
  cases result with
  | error e => cases retyped
  | ok report' =>
    cases applied : patch.apply source with
    | error e =>
      simp only [applied] at retyped
      cases retyped
    | ok out' =>
      simp only [applied] at retyped
      cases retyped
      exact ⟨rfl, rfl⟩

theorem retypeSource_error {c : Catalog} {e : Error}
    (failed : retypeSource parseModule source c = .error e) :
    (retypeModule parseModule source c {}).2 = .error e ∨
      (retypeModule parseModule source c {}).1.apply source = .error e := by
  unfold retypeSource at failed
  generalize retypeModule parseModule source c {} = visited at failed ⊢
  obtain ⟨patch, result⟩ := visited
  cases result with
  | error e' =>
    cases failed
    exact .inl rfl
  | ok report =>
    cases applied : patch.apply source with
    | error e' =>
      simp only [applied] at failed
      cases failed
      exact .inr rfl
    | ok out =>
      simp only [applied] at failed
      cases failed

theorem freshModule_edits (parseModule : String → Tree) (source : String) (c : Catalog) :
    (retypeModule parseModule source c {}).1.edits =
      (walkModule (parseModule source) source).aliases.flatMap (keptEdits c source) := by
  simp [retypeModule_patch]

theorem freshModule_placed (c : Catalog) (wf : (parseModule source).WellFormed source) :
    Placed source 0 source.utf8ByteSize (retypeModule parseModule source c {}).1.edits := by
  rw [freshModule_edits parseModule source c]
  exact (moduleEdits_placed c wf).mono (Nat.zero_le _) (Node.wellFormed_iff.mp wf).1

theorem retypeSource_keeps_quiet (c : Catalog) (wf : (parseModule source).WellFormed source)
    {out : String} {report : Report} (retyped : retypeSource parseModule source c = .ok (out, report))
    {a : TypeAlias} (member : a ∈ (walkModule (parseModule source) source).aliases)
    (quiet : keptEdits c source a = []) :
    ∃ pre post, out = pre ++ a.node.text source ++ post := by
  have placed := freshModule_placed c wf
  have outside := moduleEdits_outside_quiet c wf member quiet
  obtain ⟨nodeWf, _⟩ := (walkModule_aliases wf).2 a member
  obtain ⟨nodeEnd, startValid, stopValid, _⟩ := Node.wellFormed_iff.mp nodeWf
  rw [← freshModule_edits parseModule source c] at outside
  obtain ⟨pre, post, applied⟩ := Patch.apply_keeps placed outside startValid stopValid
    (Node.start_le_stop nodeWf) nodeEnd
  rw [(retypeSource_ok retyped).2] at applied
  exact ⟨pre, post, Except.ok.inj applied⟩

theorem retypeSource_keeps_failed (c : Catalog) (wf : (parseModule source).WellFormed source)
    {out : String} {report : Report} (retyped : retypeSource parseModule source c = .ok (out, report))
    {a : TypeAlias} (member : a ∈ (walkModule (parseModule source) source).aliases)
    (failed : (aliasFailure? c source a).isSome) :
    ∃ pre post, out = pre ++ a.node.text source ++ post :=
  retypeSource_keeps_quiet c wf retyped member (keptEdits_failed failed)

/-- Retyping a module rolls back exactly the declarations that fail. An alias that fails
leaves the patch as it was; the patch the module leaves is the one it started from followed by
the edits of the aliases that succeed, in order, so nothing already in it is removed and the
report counts the edits appended; the report lists the failed aliases in order with their
messages; every fault of an alias is confined to it, so only a namespace entered without
statements fails the module; and the text of a failed declaration comes out unchanged. -/
theorem retypeModule_rolls_back (parseModule : String → Tree) (source : String) (c : Catalog)
    (patch : Patch) :
    (∀ (a : TypeAlias) (start : Patch) (report : Report), (aliasFailure? c source a).isSome →
      (visitAlias c source a (start, report)).1 = start) ∧
    (retypeModule parseModule source c patch).1.edits = patch.edits ++
      ((walkModule (parseModule source) source).aliases.filter
        fun a => (aliasFailure? c source a).isNone).flatMap (fun a => (aliasRun c source a).edits) ∧
    patch.edits <+: (retypeModule parseModule source c patch).1.edits ∧
    (∀ report, (retypeModule parseModule source c patch).2 = .ok report →
      report.failures =
          (walkModule (parseModule source) source).aliases.filterMap (aliasFailure? c source) ∧
        patch.len + report.edits = (retypeModule parseModule source c patch).1.len) ∧
    (∀ (a : TypeAlias) (e : Error), (aliasRun c source a).outcome = .error e →
      e.isStatementLocal = true) ∧
    (∀ e, (retypeModule parseModule source c patch).2 = .error e →
      (walkModule (parseModule source) source).fault = some e ∧ e = .emptyNamespace) ∧
    ((parseModule source).WellFormed source →
      ∀ out report, retypeSource parseModule source c = .ok (out, report) →
      ∀ a ∈ (walkModule (parseModule source) source).aliases, (aliasFailure? c source a).isSome →
        ∃ pre post, out = pre ++ a.node.text source ++ post) := by
  have patched := retypeModule_patch parseModule source c patch
  refine ⟨fun a start report failed => ?_, ?_, ?_, fun report succeeded => ?_,
    fun a e failed => (aliasRun_sound c a).2 e failed, fun e failed => ?_,
    fun wf out report retyped a member failed => retypeSource_keeps_failed c wf retyped member failed⟩
  · obtain ⟨_, visited, _⟩ := visitAlias_eq c source a start report
    rw [visited, keptEdits_failed failed, List.append_nil]
  · rw [patched, flatMap_keptEdits]
  · rw [patched]
    exact List.prefix_append _ _
  · obtain ⟨failures, counted⟩ := (retypeModule_result parseModule source c patch).2 report succeeded
    refine ⟨failures, ?_⟩
    rw [counted, patched]
    simp [Patch.len]
  · have fault := ((retypeModule_result parseModule source c patch).1 e).mp failed
    exact ⟨fault, walkModule_fault fault⟩

end TypedJson
