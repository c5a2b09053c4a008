import TypedJson.Proofs.Blob
import TypedJson.Proofs.Schedule
import TypedJson.Retype.Payload
/-!
# Retyping a payload

Classifying an alias fails only on a relation base that names no entity, so every fault of a
payload retype (that one, met while resolving a nested relation shape, or a payload without
scalars) is confined to the declaration. The edits of a payload go into the types of its
`scalars`, `objects` and `composites` members, which lie apart inside it; those of a nested
relation shape stay inside that shape, however deep the payloads nest.
-/
namespace TypedJson

open Syntax

variable {source : String}

theorem Classify.shapes_error {c : Catalog} {aliasName : String} {seenNoOp : Bool}
    {shapes : List Naming.RelationShape} {e : Error}
    (failed : Classify.shapes c aliasName seenNoOp shapes = .error e) :
    ∃ base pattern, e = .unknownRelationBase aliasName base pattern := by
  fun_induction Classify.shapes c aliasName seenNoOp shapes with
  | case1 => cases failed
  | case2 => cases failed
  | case3 => cases failed
  | case4 _ _ _ _ base _ _ =>
    cases failed
    exact ⟨_, _, rfl⟩
  | case5 _ _ _ _ _ _ ih => exact ih failed

theorem classify_error {c : Catalog} {aliasName : String} {isObject : Bool} {e : Error}
    (failed : classify c aliasName isObject = .error e) :
    ∃ base pattern, e = .unknownRelationBase aliasName base pattern := by
  unfold classify at failed
  split at failed
  · cases failed
  split at failed
  · cases failed
  split at failed
  · cases failed
  split at failed
  · cases failed
  split at failed
  · cases failed
  split at failed
  · cases failed
  · exact Classify.shapes_error failed

theorem error_of_forIn {ε β γ : Type} (P : ε → Prop) {xs : List γ}
    {f : γ → β → Except ε (ForInStep β)} (body : ∀ x ∈ xs, ∀ b e, f x b = .error e → P e) :
    ∀ b e, forIn xs b f = .error e → P e := by
  induction xs with
  | nil => intro b e failed; cases failed
  | cons x xs ih =>
    intro b e failed
    rw [List.forIn_cons] at failed
    cases round : f x b with
    | error e' =>
      rw [round] at failed
      cases failed
      exact body x (List.mem_cons_self ..) b e round
    | ok step =>
      rw [round] at failed
      cases step with
      | done b' => cases failed
      | yield b' => exact ih (fun y member => body y (List.mem_cons_of_mem x member)) b' e failed

theorem error_of_bind {ε α β : Type} {x : Except ε α} {f : α → Except ε β} {e : ε}
    (failed : (x >>= f) = .error e) : x = .error e ∨ ∃ a, x = .ok a ∧ f a = .error e := by
  cases x with
  | error e' =>
    cases failed
    exact .inl rfl
  | ok a => exact .inr ⟨a, rfl, failed⟩

theorem resolveNested_error {c : Catalog} {nested relationType : Node}
    {e : Error} (failed : resolveNested c source nested relationType = .error e) :
    e.isStatementLocal = true := by
  unfold resolveNested at failed
  split at failed
  · cases failed
  · rcases error_of_bind failed with looped | ⟨r, _, picked⟩
    · -- the search over the referenced names fails only where classifying one fails
      refine error_of_forIn (fun e : Error => e.isStatementLocal = true)
        (fun reference _ b e' round => ?_) _ e looped
      rcases error_of_bind round with classified | ⟨d, _, matched⟩
      · obtain ⟨base, pattern, rfl⟩ := classify_error classified
        rfl
      · cases d <;> cases matched
    · rcases r with ⟨_ | found, ⟨⟩⟩ <;> cases picked
open Scheduling

mutual

theorem retypePayload_sound (c : Catalog) (source : String) :
    ∀ fuel aliasName payload entity,
      (retypePayload c source fuel aliasName payload entity).Sound (·.isStatementLocal = true)
  | 0, _, _, _ => sound_pure 0
  | fuel + 1, aliasName, payload, entity => by
    rw [retypePayload.eq_2]
    split
    · apply sound_bind (sound_modifyGet (retypeObject_swap _ entity))
      intro n
      refine sound_bind (sound_forIn (fun member _ n => ?_) n) fun _ => sound_pure _
      split
      · split
        · exact sound_pure _
        · refine sound_bind (sound_forIn (fun relation _ n => ?_) n) fun _ => sound_pure _
          split
          · refine sound_bind (sound_forIn (fun nested _ n => ?_) n) fun _ => sound_pure _
            apply sound_bind (sound_liftExcept fun e => resolveNested_error)
            intro resolved
            split
            · exact sound_bind (retypeEntityObject_sound c source fuel _ nested _)
                fun k => sound_pure _
            · exact sound_pure _
          · exact sound_pure _
      · exact sound_pure _
    · exact sound_throw rfl

theorem retypeEntityObject_sound (c : Catalog) (source : String) :
    ∀ fuel name obj entity,
      (retypeEntityObject c source fuel name obj entity).Sound (·.isStatementLocal = true)
  | 0, _, _, _ => sound_pure 0
  | fuel + 1, name, obj, entity => by
    rw [retypeEntityObject.eq_2]
    split
    · exact retypePayload_sound c source fuel name obj entity
    · exact sound_modifyGet (retypeObject_swap obj entity)

end

def memberSpan (obj : Node) (name source : String) : Option (Nat × Nat) :=
  (objectProperty? obj name source).bind Property.span

section MemberSpan

variable {obj t : Node} {name : String}

theorem memberSpan_of_type (typed : (objectProperty? obj name source).bind (·.type?) = some t) :
    memberSpan obj name source = some (t.start, t.stop) := by
  obtain ⟨p, found, pTyped⟩ := Option.bind_eq_some_iff.mp typed
  simp [memberSpan, found, Property.span, pTyped, Node.span]

theorem memberType_wellFormed (wf : obj.wellFormed source = true)
    (typed : (objectProperty? obj name source).bind (·.type?) = some t) :
    t.wellFormed source = true := by
  obtain ⟨p, found, pTyped⟩ := Option.bind_eq_some_iff.mp typed
  exact (objectProperties_ordered wf).2 p (objectProperty_mem found).1 t pTyped

theorem memberSpan_inside {a b : Nat} (wf : obj.wellFormed source = true)
    (spanned : memberSpan obj name source = some (a, b)) : obj.start ≤ a ∧ b ≤ obj.stop := by
  obtain ⟨p, found, pSpan⟩ := Option.bind_eq_some_iff.mp spanned
  have inside := (objectProperties_ordered wf).1.mem (objectProperty_mem found).1 pSpan
  omega

theorem memberSpan_apart {name' : String} (wf : obj.wellFormed source = true)
    (different : name ≠ name') : ∀ a b c d, memberSpan obj name source = some (a, b) →
      memberSpan obj name' source = some (c, d) → b ≤ c ∨ d ≤ a := by
  intro a b c d first second
  obtain ⟨p, found, pSpan⟩ := Option.bind_eq_some_iff.mp first
  obtain ⟨q, found', qSpan⟩ := Option.bind_eq_some_iff.mp second
  obtain ⟨pMember, pName⟩ := objectProperty_mem found
  obtain ⟨qMember, qName⟩ := objectProperty_mem found'
  have distinct : p ≠ q := by
    intro same
    subst same
    exact different (pName.symm.trans qName)
  exact (objectProperties_ordered wf).1.apart pMember qMember distinct pSpan qSpan

end MemberSpan

theorem Edit.within_node {n : Node} {e : Edit} (fits : e.Fits source n.start n.stop) :
    e.Within source n.span :=
  ⟨n.start, n.stop, rfl, fits⟩

mutual

theorem retypePayload_confined (c : Catalog) :
    ∀ fuel aliasName payload entity, payload.wellFormed source = true →
      (retypePayload c source fuel aliasName payload entity).Confined
        (Edit.Fits source payload.start payload.stop)
  | 0, _, _, _, _ => confined_pure 0
  | fuel + 1, aliasName, payload, entity, wf => by
    rw [retypePayload.eq_2]
    split
    · next scalars found =>
      -- the scalars object lies in the type of the `scalars` member
      obtain ⟨ty, typed, head⟩ := Option.bind_eq_some_iff.mp found
      have tyWf := memberType_wellFormed wf typed
      have scalarsMember := List.mem_of_mem_head? head
      have scalarsWf := ((nestedObjects_ordered tyWf).2 scalars scalarsMember).1
      have scalarsInside := (nestedObjects_ordered tyWf).1.mem scalarsMember rfl
      -- every edit goes into the type of one member; the types lie apart inside the payload
      refine (confined_bind
        (?_ : Confined (Edit.Within source (memberSpan payload "scalars" source)) _)
        (fun n => confined_bind_pure _ (?_ : Confined (fun e => ∃ member ∈ relationMembers,
          Edit.Within source (memberSpan payload member source) e) _)) ?_).mono ?_
      · obtain ⟨fits, apart⟩ := objectEdits_placed entity scalarsWf
        refine confined_modifyGet (retypeObject_swap scalars entity) ⟨fun e member => ?_, apart⟩
        obtain ⟨start, nonempty, stop, valid⟩ := fits e member
        exact ⟨ty.start, ty.stop, memberSpan_of_type typed,
          Nat.le_trans scalarsInside.1 start, nonempty, Nat.le_trans stop scalarsInside.2.2, valid⟩
      · refine confined_forIn ?_ (fun member _ n => ?_) n
        · rw [relationMembers, List.pairwise_pair]
          intro e e' inObjects inComposites
          exact inObjects.apart inComposites (memberSpan_apart wf (by decide))
        split
        · next relations typed =>
          split
          · exact confined_pure _
          have relationsWf := memberType_wellFormed wf typed
          refine (confined_bind_pure _ (confined_forIn_ordered
            (objectProperties_ordered relationsWf).1 (fun relation isRelation n => ?_) n)).mono
            fun e fits => ⟨_, _, memberSpan_of_type typed, fits⟩
          split
          · next ty relationTyped =>
            have tyWf := (objectProperties_ordered relationsWf).2 relation isRelation ty relationTyped
            refine (confined_bind_pure _ (confined_forIn_ordered (nestedObjects_ordered tyWf).1
              (fun nested isNested n => ?_) n)).mono
              fun e fits => ⟨_, _, by simp [Property.span, relationTyped, Node.span], fits⟩
            have nestedWf := ((nestedObjects_ordered tyWf).2 nested isNested).1
            refine confined_bind_quiet (appendsOnly_liftExcept _).1 (appendsOnly_liftExcept _).2.2
              fun resolved => ?_
            split
            · exact confined_bind_pure _ ((retypeEntityObject_confined c fuel _ nested _ nestedWf).mono
                fun e => Edit.within_node)
            · exact confined_pure _
          · exact confined_pure _
        · exact confined_pure _
      · rintro e e' inScalars ⟨member, isMember, inMember⟩
        refine inScalars.apart inMember (memberSpan_apart wf ?_)
        simp only [relationMembers, List.mem_cons, List.not_mem_nil, or_false] at isMember
        rcases isMember with rfl | rfl <;> decide
      · rintro e (⟨a, b, spanned, start, nonempty, stop, valid⟩ |
          ⟨member, _, a, b, spanned, start, nonempty, stop, valid⟩)
        · have inside := memberSpan_inside wf spanned
          exact ⟨Nat.le_trans inside.1 start, nonempty, Nat.le_trans stop inside.2, valid⟩
        · have inside := memberSpan_inside wf spanned
          exact ⟨Nat.le_trans inside.1 start, nonempty, Nat.le_trans stop inside.2, valid⟩
    · exact confined_throw _

theorem retypeEntityObject_confined (c : Catalog) :
    ∀ fuel name obj entity, obj.wellFormed source = true →
      (retypeEntityObject c source fuel name obj entity).Confined
        (Edit.Fits source obj.start obj.stop)
  | 0, _, _, _, _ => confined_pure 0
  | fuel + 1, name, obj, entity, wf => by
    rw [retypeEntityObject.eq_2]
    split
    · exact retypePayload_confined c fuel name obj entity wf
    · exact confined_modifyGet (retypeObject_swap obj entity) (objectEdits_placed entity wf)

end

end TypedJson
