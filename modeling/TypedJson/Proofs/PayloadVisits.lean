import TypedJson.Proofs.Replaced
import TypedJson.Proofs.Subtrees
/-!
# The objects a payload retype visits

A payload retype hands objects to the field retype: its scalars object for its own entity,
then, member by member and relation by relation, every relation shape that resolves, for the
entity it resolves to, recursively when the shape is a payload itself. Logging those objects
in place of retyping them gives the visits of the retype, and the retype schedules exactly the
edits of its visits, in order.

Every object the recursion goes into, or visits, is an object type strictly below the payload,
so the fuel the pass gives (twice the payload's height, and two) is never used up: with more
the retype is the same. The visited objects are pairwise disjoint subtrees of the payload, and
none is visited twice: their subtrees, all together, are part of the payload's strict
subtrees, each place of the tree counted once.
-/
namespace TypedJson

open Syntax Syntax.Node Scheduling
open scoped List

variable {α β γ : Type} {source : String}

abbrev Visit := Node × Entity

def Visit.edits (source : String) (v : Visit) : List Edit :=
  (objectProperties v.1 source).flatMap (fieldEdits v.2 source)

abbrev Tracing := ExceptT Error (StateM (List Visit))

def logVisit (source : String) (obj : Node) (entity : Entity) : Tracing Nat :=
  modifyGet fun vs => ((objectProperties obj source).countP (fieldRetyped entity source),
    vs ++ [(obj, entity)])

mutual

def tracePayload (c : Catalog) (source : String) :
    Nat → String → Node → Entity → Tracing Nat
  | 0, _, _, _ => pure 0
  | fuel + 1, aliasName, payload, entity => do
    let scalars? := ((objectProperty? payload "scalars" source).bind (·.type?)).bind
      fun ty => (nestedObjects ty).head?
    let some scalars := scalars? | throw (.missingScalars aliasName)
    let mut n ← logVisit source scalars entity
    for member in relationMembers do
      let some relations := (objectProperty? payload member source).bind (·.type?) | continue
      if relations.kind != .objectType then continue
      for relation in objectProperties relations source do
        let some ty := relation.type? | continue
        for nested in nestedObjects ty do
          let some related ← liftExcept (resolveNested c source nested ty) | continue
          let label := aliasName ++ "." ++ member ++ "." ++ relation.name
          n := n + (← traceEntityObject c source fuel label nested related)
    pure n

def traceEntityObject (c : Catalog) (source : String) :
    Nat → String → Node → Entity → Tracing Nat
  | 0, _, _, _ => pure 0
  | fuel + 1, name, obj, entity =>
    if (objectProperty? obj "scalars" source).isSome then
      tracePayload c source fuel name obj entity
    else logVisit source obj entity

end

theorem run_bind_state {σ : Type} (x : ExceptT Error (StateM σ) α)
    (f : α → ExceptT Error (StateM σ) β) (s : σ) :
    (x >>= f).run.run s =
      match x.run.run s with
      | (.ok a, s') => (f a).run.run s'
      | (.error e, s') => (.error e, s') := by
  simp only [ExceptT.run_bind, StateT.run_bind]
  rcases x.run.run s with ⟨_ | a, s'⟩ <;> rfl

namespace Scheduling

def TracedBy (source : String) (m : Scheduling α) (t : Tracing α) : Prop :=
  ∀ (patch : Patch) (vs : List Visit), ∃ new : List Visit, (t.run.run vs).2 = vs ++ new ∧
    m.run.run patch = ((t.run.run vs).1, ⟨patch.edits ++ new.flatMap (Visit.edits source)⟩)

theorem TracedBy.eq {m m' : Scheduling α} {t : Tracing α} (traced : m.TracedBy source t)
    (traced' : m'.TracedBy source t) : m = m' := by
  refine ExceptT.ext (StateT.ext fun patch => ?_)
  obtain ⟨new, logged, ran⟩ := traced patch []
  obtain ⟨new', logged', ran'⟩ := traced' patch []
  have same : new = new' := by simpa [logged] using logged'
  show m.run.run patch = m'.run.run patch
  rw [ran, ran', same]

theorem tracedBy_pure (a : α) : (pure a : Scheduling α).TracedBy source (pure a) :=
  fun patch vs => ⟨[], by simp; rfl, by simp; rfl⟩

theorem tracedBy_throw (e : Error) : (throw e : Scheduling α).TracedBy source (throw e) :=
  fun patch vs => ⟨[], by simp; rfl, by simp; rfl⟩

theorem tracedBy_liftExcept (x : Except Error α) :
    (liftExcept x : Scheduling α).TracedBy source (liftExcept x) := by
  cases x with
  | error e => exact tracedBy_throw e
  | ok a => exact tracedBy_pure a

theorem tracedBy_logVisit (obj : Node) (entity : Entity) :
    (modifyGet fun patch => (retypeObject obj entity source patch).swap : Scheduling Nat).TracedBy
      source (logVisit source obj entity) := by
  intro patch vs
  refine ⟨[(obj, entity)], rfl, ?_⟩
  obtain ⟨appends, gives, scheduled⟩ := appendsOnly_modifyGet (@retypeObject_swap source obj entity)
  rw [appends patch, gives, scheduled, List.flatMap_singleton]
  rfl

theorem tracedBy_bind {m : Scheduling α} {t : Tracing α} {f : α → Scheduling β}
    {g : α → Tracing β} (first : m.TracedBy source t) (next : ∀ a, (f a).TracedBy source (g a)) :
    (m >>= f).TracedBy source (t >>= g) := by
  intro patch vs
  obtain ⟨new, logged, ran⟩ := first patch vs
  rw [run_bind_state, run_bind_state, ran]
  rcases traced : t.run.run vs with ⟨_ | a, vs'⟩
  · -- the first step failed: both stop there
    rw [traced] at logged
    exact ⟨new, logged, rfl⟩
  · rw [traced] at logged
    dsimp only at logged ⊢
    obtain ⟨new', logged', ran'⟩ := next a ⟨patch.edits ++ new.flatMap (Visit.edits source)⟩ vs'
    refine ⟨new ++ new', ?_, ?_⟩
    · rw [logged', logged, List.append_assoc]
    · rw [ran', List.flatMap_append, List.append_assoc]

theorem tracedBy_forIn {xs : List γ} {f : γ → β → Scheduling (ForInStep β)}
    {g : γ → β → Tracing (ForInStep β)} (body : ∀ x ∈ xs, ∀ b, (f x b).TracedBy source (g x b))
    (b : β) : (forIn xs b f).TracedBy source (forIn xs b g) := by
  induction xs generalizing b with
  | nil => exact tracedBy_pure b
  | cons x xs ih =>
    rw [List.forIn_cons, List.forIn_cons]
    apply tracedBy_bind (body x (List.mem_cons_self ..) b)
    intro step
    cases step with
    | done b' => exact tracedBy_pure b'
    | yield b' => exact ih (fun y member => body y (List.mem_cons_of_mem x member)) b'

end Scheduling

mutual

theorem retypePayload_tracedBy (c : Catalog) :
    ∀ fuel fuel' aliasName payload entity, 2 * payload.height + 2 ≤ fuel →
      2 * payload.height + 2 ≤ fuel' →
      (retypePayload c source fuel aliasName payload entity).TracedBy source
        (tracePayload c source fuel' aliasName payload entity)
  | 0, _, _, _, _, enough, _ => absurd enough (by omega)
  | _, 0, _, _, _, _, enough => absurd enough (by omega)
  | fuel + 1, fuel' + 1, aliasName, payload, entity, enough, enough' => by
    rw [retypePayload.eq_2, tracePayload.eq_2]
    -- the two bodies make the same choices, so each choice is split on both at once
    cases ((objectProperty? payload "scalars" source).bind (·.type?)).bind
      (fun ty => (nestedObjects ty).head?) with
    | none => exact tracedBy_throw _
    | some scalars =>
      apply tracedBy_bind (tracedBy_logVisit scalars entity)
      intro n
      refine tracedBy_bind (tracedBy_forIn (fun member _ n => ?_) n) fun _ => tracedBy_pure _
      cases typed : (objectProperty? payload member source).bind (·.type?) with
      | none => exact tracedBy_pure _
      | some relations =>
        dsimp only
        split
        · exact tracedBy_pure _
        refine tracedBy_bind (tracedBy_forIn (fun relation isRelation n => ?_) n)
          fun _ => tracedBy_pure _
        cases relationTyped : relation.type? with
        | none => exact tracedBy_pure _
        | some ty =>
          refine tracedBy_bind (tracedBy_forIn (fun nested isNested n => ?_) n)
            fun _ => tracedBy_pure _
          apply tracedBy_bind (tracedBy_liftExcept _)
          intro resolved
          cases resolved with
          | none => exact tracedBy_pure _
          | some related =>
            -- the nested shape lies strictly below the payload, so both fuels last
            have below := nested_height_lt typed isRelation relationTyped isNested
            exact tracedBy_bind (retypeEntityObject_tracedBy c fuel fuel' _ nested related
              (by omega) (by omega)) fun k => tracedBy_pure _

theorem retypeEntityObject_tracedBy (c : Catalog) :
    ∀ fuel fuel' name obj entity, 2 * obj.height + 3 ≤ fuel → 2 * obj.height + 3 ≤ fuel' →
      (retypeEntityObject c source fuel name obj entity).TracedBy source
        (traceEntityObject c source fuel' name obj entity)
  | 0, _, _, _, _, enough, _ => absurd enough (by omega)
  | _, 0, _, _, _, _, enough => absurd enough (by omega)
  | fuel + 1, fuel' + 1, name, obj, entity, enough, enough' => by
    rw [retypeEntityObject.eq_2, traceEntityObject.eq_2]
    split
    · exact retypePayload_tracedBy c fuel fuel' name obj entity (by omega) (by omega)
    · exact tracedBy_logVisit obj entity

end

namespace Tracing

def VisitsWithin (bound : List Node) (t : Tracing α) : Prop :=
  ∀ vs, ∃ new : List Visit, (t.run.run vs).2 = vs ++ new ∧
    (∀ v ∈ new, v.1.kind = .objectType) ∧ new.flatMap (·.1.subtrees) <+~ bound

theorem VisitsWithin.mono {t : Tracing α} {bound bound' : List Node} (part : bound <+~ bound')
    (within : t.VisitsWithin bound) : t.VisitsWithin bound' := fun vs => by
  obtain ⟨new, logged, kinds, sub⟩ := within vs
  exact ⟨new, logged, kinds, sub.trans part⟩

theorem visitsWithin_pure (a : α) {bound : List Node} : (pure a : Tracing α).VisitsWithin bound :=
  fun vs => ⟨[], by simp; rfl, by simp, by simp⟩

theorem visitsWithin_throw (e : Error) {bound : List Node} :
    (throw e : Tracing α).VisitsWithin bound :=
  fun vs => ⟨[], by simp; rfl, by simp, by simp⟩

theorem visitsWithin_liftExcept (x : Except Error α) {bound : List Node} :
    (liftExcept x : Tracing α).VisitsWithin bound := by
  cases x with
  | error e => exact visitsWithin_throw e
  | ok a => exact visitsWithin_pure a

theorem visitsWithin_logVisit {obj : Node} (entity : Entity) (kind : obj.kind = .objectType) :
    (logVisit source obj entity).VisitsWithin obj.subtrees :=
  fun vs => ⟨[(obj, entity)], rfl, by simpa using kind, by simpa using List.Subperm.refl obj.subtrees⟩

theorem visitsWithin_bind {t : Tracing α} {g : α → Tracing β} {bound bound' : List Node}
    (first : t.VisitsWithin bound) (next : ∀ a, (g a).VisitsWithin bound') :
    (t >>= g).VisitsWithin (bound ++ bound') := by
  intro vs
  obtain ⟨new, logged, kinds, sub⟩ := first vs
  rw [run_bind_state]
  rcases traced : t.run.run vs with ⟨_ | a, vs'⟩
  · rw [traced] at logged
    exact ⟨new, logged, kinds, sub.trans (List.sublist_append_left ..).subperm⟩
  · rw [traced] at logged
    dsimp only at logged ⊢
    obtain ⟨new', logged', kinds', sub'⟩ := next a vs'
    refine ⟨new ++ new', by rw [logged', logged, List.append_assoc], ?_, ?_⟩
    · intro v member
      rcases List.mem_append.mp member with member | member
      · exact kinds v member
      · exact kinds' v member
    · rw [List.flatMap_append]
      exact sub.append sub'

theorem visitsWithin_bind_pure {t : Tracing α} {bound : List Node} (g : α → β)
    (first : t.VisitsWithin bound) : (t >>= fun a => pure (g a)).VisitsWithin bound := by
  simpa using visitsWithin_bind first fun a => (visitsWithin_pure (g a) : VisitsWithin [] _)

theorem visitsWithin_forIn {xs : List γ} {g : γ → β → Tracing (ForInStep β)}
    {bound : γ → List Node} (body : ∀ x ∈ xs, ∀ b, (g x b).VisitsWithin (bound x)) (b : β) :
    (forIn xs b g).VisitsWithin (xs.flatMap bound) := by
  induction xs generalizing b with
  | nil => exact visitsWithin_pure b
  | cons x xs ih =>
    rw [List.forIn_cons, List.flatMap_cons]
    apply visitsWithin_bind (body x (List.mem_cons_self ..) b)
    intro step
    cases step with
    | done b' => exact visitsWithin_pure b'
    | yield b' => exact ih (fun y member => body y (List.mem_cons_of_mem x member)) b'

end Tracing

open Tracing

theorem payloadMembers_nodup : ("scalars" :: relationMembers).Nodup := by
  decide

mutual

theorem tracePayload_visitsWithin (c : Catalog) :
    ∀ fuel aliasName payload entity,
      (tracePayload c source fuel aliasName payload entity).VisitsWithin payload.descendants
  | 0, _, _, _ => visitsWithin_pure 0
  | fuel + 1, aliasName, payload, entity => by
    rw [tracePayload.eq_2]
    split
    · next scalars found =>
      obtain ⟨ty, typed, head⟩ := Option.bind_eq_some_iff.mp found
      obtain ⟨others, objects⟩ := List.head?_eq_some_iff.mp head
      have scalarsKind := nestedObjects_kind (List.mem_of_mem_head? head)
      -- the scalars object lies in the type of the `scalars` member, the relation shapes in
      -- the types of the relation members, and these three members have different names
      have scalarsPart : scalars.subtrees <+~ memberSubtrees payload "scalars" source := by
        rw [memberSubtrees_of_type typed]
        have part := nestedObjects_sublist ty
        rw [objects, List.flatMap_cons] at part
        exact ((List.sublist_append_left ..).trans part).subperm
      refine (visitsWithin_bind ((visitsWithin_logVisit entity scalarsKind).mono scalarsPart)
        fun n => visitsWithin_bind_pure _ (visitsWithin_forIn (fun member _ n => ?_) n)).mono
        (memberSubtrees_subperm payload payloadMembers_nodup)
      cases typed : (objectProperty? payload member source).bind (·.type?) with
      | none => exact visitsWithin_pure _
      | some relations =>
        rw [memberSubtrees_of_type typed]
        dsimp only
        split
        · exact visitsWithin_pure _
        refine (visitsWithin_bind_pure _ (visitsWithin_forIn (fun relation _ n => ?_) n)).mono
          ((objectProperties_sublist relations).trans (descendants_sublist relations)).subperm
        cases relationTyped : relation.type? with
        | none => exact visitsWithin_pure _
        | some ty =>
          have tyPart : (nestedObjects ty).flatMap subtrees <+~ relation.typeSubtrees := by
            simpa [Property.typeSubtrees, relationTyped] using (nestedObjects_sublist ty).subperm
          refine (visitsWithin_bind_pure _ (visitsWithin_forIn (fun nested isNested n => ?_) n)).mono
            tyPart
          apply visitsWithin_bind (visitsWithin_liftExcept _ : VisitsWithin [] _)
          intro resolved
          cases resolved with
          | none => exact visitsWithin_pure _
          | some related =>
            exact visitsWithin_bind_pure _
              (traceEntityObject_visitsWithin c fuel _ nested related (nestedObjects_kind isNested))
    · exact visitsWithin_throw _

theorem traceEntityObject_visitsWithin (c : Catalog) :
    ∀ fuel name obj entity, obj.kind = .objectType →
      (traceEntityObject c source fuel name obj entity).VisitsWithin obj.subtrees
  | 0, _, _, _, _ => visitsWithin_pure 0
  | fuel + 1, name, obj, entity, kind => by
    rw [traceEntityObject.eq_2]
    split
    · exact (tracePayload_visitsWithin c fuel name obj entity).mono (descendants_sublist obj).subperm
    · exact visitsWithin_logVisit entity kind

end

theorem related_descendant {c : Catalog} {payload nested : Node} {related : Entity}
    (shape : Related c source payload nested related) :
    nested.kind = .objectType ∧ nested ∈ payload.descendants ∧ nested.height < payload.height := by
  obtain ⟨member, isMember, relations, typed, _, relation, isRelation, ty, relationTyped, isNested,
    _⟩ := shape
  refine ⟨nestedObjects_kind isNested, ?_, nested_height_lt typed isRelation relationTyped isNested⟩
  -- the shape lies in the type of its relation, which lies in the type of the member
  have inType : nested ∈ relation.typeSubtrees := by
    simpa [Property.typeSubtrees, relationTyped] using
      (nestedObjects_sublist ty).subset (List.mem_flatMap.mpr ⟨nested, isNested, mem_subtrees nested⟩)
  have inRelations : nested ∈ memberSubtrees payload member source := by
    rw [memberSubtrees_of_type typed]
    exact (descendants_sublist relations).subset
      ((objectProperties_sublist relations).subset (List.mem_flatMap.mpr ⟨relation, isRelation, inType⟩))
  exact (memberSubtrees_subperm payload payloadMembers_nodup).subset
    (List.mem_flatMap.mpr ⟨member, List.mem_cons_of_mem _ isMember, inRelations⟩)

def payloadTrace (c : Catalog) (source aliasName : String) (payload : Node) (entity : Entity) :
    Except Error Nat × List Visit :=
  (tracePayload c source (2 * payload.height + 2) aliasName payload entity).run.run []

/-- A payload retype goes only into relation shapes, object types strictly below the payload,
so the fuel the pass gives it (twice the payload's height, and two) is never used up: more
fuel changes nothing. It schedules exactly the edits of the objects it visits, in order, and
those are object types at different places strictly below the payload: none lies inside
another, and none is visited twice. -/
theorem retypePayload_visits_disjoint_subtrees (c : Catalog) (aliasName : String)
    (payload : Node) (entity : Entity) :
    (∀ nested related, Related c source payload nested related →
      nested.kind = .objectType ∧ nested ∈ payload.descendants ∧
        nested.height < payload.height) ∧
    (∀ fuel, 2 * payload.height + 2 ≤ fuel →
      retypePayload c source fuel aliasName payload entity =
        retypePayload c source (2 * payload.height + 2) aliasName payload entity) ∧
    (∀ patch : Patch,
      (retypePayload c source (2 * payload.height + 2) aliasName payload entity).run.run patch =
        ((payloadTrace c source aliasName payload entity).1,
          ⟨patch.edits ++
            (payloadTrace c source aliasName payload entity).2.flatMap (Visit.edits source)⟩)) ∧
    (∀ v ∈ (payloadTrace c source aliasName payload entity).2, v.1.kind = .objectType) ∧
    (payloadTrace c source aliasName payload entity).2.flatMap (·.1.subtrees) <+~
      payload.descendants := by
  have traced := @retypePayload_tracedBy source c _ _ aliasName payload entity
    (Nat.le_refl (2 * payload.height + 2)) (Nat.le_refl _)
  obtain ⟨new, logged, kinds, part⟩ :=
    @tracePayload_visitsWithin source c (2 * payload.height + 2) aliasName payload entity []
  -- from an empty log, the trace's log is what it appends
  have visits : (payloadTrace c source aliasName payload entity).2 = new := by
    rw [payloadTrace, logged, List.nil_append]
  refine ⟨fun _ _ shape => related_descendant shape, fun fuel enough => ?_, fun patch => ?_,
    visits ▸ kinds, visits ▸ part⟩
  · exact (retypePayload_tracedBy c fuel _ aliasName payload entity enough (Nat.le_refl _)).eq
      traced
  · obtain ⟨new', logged', ran⟩ := traced patch []
    rw [ran, payloadTrace, logged', List.nil_append]

theorem retypePayload_visits_userPayload :
    ∃ payload nested : Node,
      (parse "type UserPayload = \x7b scalars: \x7b\x7d; objects: \x7b posts: \x7b name: \"Post\"; scalars: \x7b\x7d \x7d[] \x7d \x7d").root.children.head?.bind (·.field? .value) = some payload ∧
      Related { entities := (∅ : Std.HashMap String Entity).insert "Post" ⟨"Post", .model, []⟩ } "type UserPayload = \x7b scalars: \x7b\x7d; objects: \x7b posts: \x7b name: \"Post\"; scalars: \x7b\x7d \x7d[] \x7d \x7d" payload nested ⟨"Post", .model, []⟩ ∧
      (nested.kind = .objectType ∧ nested ∈ payload.descendants ∧
        nested.height < payload.height) ∧
      2 * payload.height + 2 ≤ 2 * payload.height + 3 ∧
      retypePayload { entities := (∅ : Std.HashMap String Entity).insert "Post" ⟨"Post", .model, []⟩ } "type UserPayload = \x7b scalars: \x7b\x7d; objects: \x7b posts: \x7b name: \"Post\"; scalars: \x7b\x7d \x7d[] \x7d \x7d" (2 * payload.height + 3) "UserPayload" payload ⟨"User", .model, []⟩ =
        retypePayload { entities := (∅ : Std.HashMap String Entity).insert "Post" ⟨"Post", .model, []⟩ } "type UserPayload = \x7b scalars: \x7b\x7d; objects: \x7b posts: \x7b name: \"Post\"; scalars: \x7b\x7d \x7d[] \x7d \x7d" (2 * payload.height + 2) "UserPayload" payload
          ⟨"User", .model, []⟩ := by
  obtain ⟨payload, found, relations, typed, kind, relation, isRelation, ty, relationTyped, nested,
      isNested, named⟩ :
      ∃ payload ∈ (parse "type UserPayload = \x7b scalars: \x7b\x7d; objects: \x7b posts: \x7b name: \"Post\"; scalars: \x7b\x7d \x7d[] \x7d \x7d").root.children.head?.bind (·.field? .value),
        ∃ relations ∈ (objectProperty? payload "objects" "type UserPayload = \x7b scalars: \x7b\x7d; objects: \x7b posts: \x7b name: \"Post\"; scalars: \x7b\x7d \x7d[] \x7d \x7d").bind (·.type?),
          relations.kind = .objectType ∧ ∃ relation ∈ objectProperties relations "type UserPayload = \x7b scalars: \x7b\x7d; objects: \x7b posts: \x7b name: \"Post\"; scalars: \x7b\x7d \x7d[] \x7d \x7d",
            ∃ ty ∈ relation.type?, ∃ nested ∈ nestedObjects ty,
              (objectProperty? nested "name" "type UserPayload = \x7b scalars: \x7b\x7d; objects: \x7b posts: \x7b name: \"Post\"; scalars: \x7b\x7d \x7d[] \x7d \x7d").bind (·.stringLiteral? "type UserPayload = \x7b scalars: \x7b\x7d; objects: \x7b posts: \x7b name: \"Post\"; scalars: \x7b\x7d \x7d[] \x7d \x7d") = some "Post" := by
    decide +kernel
  have resolved : resolveNested { entities := (∅ : Std.HashMap String Entity).insert "Post" ⟨"Post", .model, []⟩ } "type UserPayload = \x7b scalars: \x7b\x7d; objects: \x7b posts: \x7b name: \"Post\"; scalars: \x7b\x7d \x7d[] \x7d \x7d" nested ty = .ok (some ⟨"Post", .model, []⟩) := by
    rw [resolveNested, named]
    simp only [Catalog.entity?, Std.HashMap.getElem?_insert_self]
    rfl
  have shape : Related { entities := (∅ : Std.HashMap String Entity).insert "Post" ⟨"Post", .model, []⟩ } "type UserPayload = \x7b scalars: \x7b\x7d; objects: \x7b posts: \x7b name: \"Post\"; scalars: \x7b\x7d \x7d[] \x7d \x7d" payload nested ⟨"Post", .model, []⟩ :=
    ⟨"objects", by simp [relationMembers], relations, typed, kind, relation, isRelation, ty,
      relationTyped, isNested, resolved⟩
  have visits := @retypePayload_visits_disjoint_subtrees "type UserPayload = \x7b scalars: \x7b\x7d; objects: \x7b posts: \x7b name: \"Post\"; scalars: \x7b\x7d \x7d[] \x7d \x7d" { entities := (∅ : Std.HashMap String Entity).insert "Post" ⟨"Post", .model, []⟩ } "UserPayload" payload
    ⟨"User", .model, []⟩
  exact ⟨payload, nested, found, shape, visits.1 nested _ shape, by omega, visits.2.1 _ (by omega)⟩

end TypedJson
