import TypedJson.Proofs.Rerun
/-!
# What a retype replaces

A retype replaces blob references, and only those: a type name that is a blob type, or a
qualified name whose last part is one, found in the declared type of a property, either as the
whole type or below it through unions, arrays and parentheses only. The property belongs to an
object the pass dispatched for an entity: an alias's object type, a payload's scalars object,
a relation shape nested in a payload, or a scalar-list wrapper's `set` and `push` members. Each
reference is replaced by the annotation the entity gives the property, in parentheses where
the operator around the reference binds tighter; a type that already holds its annotation,
when that names a blob type, is left alone.
-/
namespace TypedJson

open Syntax Scheduling

variable {source : String} {parseModule : String → Tree}

namespace Blob

def IsBlobRef (source : String) (n : Node) : Prop :=
  (n.kind = .typeIdentifier ∧ isBlobName (n.text source) = true) ∨
    (n.kind = .nestedTypeIdentifier ∧ ∃ m, n.field? .name = some m ∧ isBlobName (m.text source) = true)

def Descends (k : Kind) : Prop := k = .unionType ∨ k = .arrayType ∨ k = .parenthesizedType

inductive Reaches (source : String) : Option Kind → Node → Node → Option Kind → Prop
  | here {parent : Option Kind} {n : Node} : IsBlobRef source n → Reaches source parent n n parent
  | through {parent p : Option Kind} {ty c n : Node} : Descends ty.kind → c ∈ ty.children →
      Reaches source (some ty.kind) c n p → Reaches source parent ty n p

theorem reaches_iff {parent p : Option Kind} {ty n : Node} :
    Reaches source parent ty n p ↔ (IsBlobRef source ty ∧ n = ty ∧ p = parent) ∨
      (Descends ty.kind ∧ ∃ c ∈ ty.children, Reaches source (some ty.kind) c n p) := by
  constructor
  · intro reach
    cases reach with
    | here blob => exact .inl ⟨blob, rfl, rfl⟩
    | through descends child below => exact .inr ⟨descends, _, child, below⟩
  · rintro (⟨blob, rfl, rfl⟩ | ⟨descends, c, child, below⟩)
    · exact .here blob
    · exact .through descends child below

theorem nestedBlob_iff {n : Node} :
    ((n.field? .name).map fun m => isBlobName (m.text source)).getD false = true ↔
      ∃ m, n.field? .name = some m ∧ isBlobName (m.text source) = true := by
  cases n.field? .name <;> simp

mutual

theorem mem_collect : ∀ {parent p : Option Kind} {ty n : Node},
    (n, p) ∈ collect source parent ty ↔ Reaches source parent ty n p
  | parent, p, ⟨kind, role, start, stop, children⟩, n => by
    rw [reaches_iff]
    simp only [collect, IsBlobRef, Descends]
    split
    · next isName =>
      have name : kind = .typeIdentifier := by simpa using isName
      subst name
      split <;> simp_all
    · next notName =>
      have name : kind ≠ .typeIdentifier := by simpa using notName
      split
      · next isNested =>
        have nested : kind = .nestedTypeIdentifier := by simpa using isNested
        subst nested
        rw [← nestedBlob_iff]
        split <;> simp_all
      · next notNested =>
        have nested : kind ≠ .nestedTypeIdentifier := by simpa using notNested
        split
        · next descends =>
          rw [mem_collectList]
          have through : kind = .unionType ∨ kind = .arrayType ∨ kind = .parenthesizedType := by
            simpa [or_assoc] using descends
          simp [name, nested, through]
        · next stops =>
          simp only [Bool.or_eq_true, beq_iff_eq, not_or] at stops
          simp [name, nested, stops]

theorem mem_collectList : ∀ {parent : Kind} {p : Option Kind} {cs : List Node} {n : Node},
    (n, p) ∈ collectList source parent cs ↔ ∃ c ∈ cs, Reaches source (some parent) c n p
  | _, _, [], _ => by simp [collectList]
  | parent, p, c :: cs, n => by
    rw [collectList, List.mem_append, mem_collect, mem_collectList]
    simp

end

def BlobEdit (source : String) (ty : Node) (target : String) (e : Edit) : Prop :=
  ¬(mentionsBlob target = true ∧ containsWord (ty.text source) target = true) ∧
    ∃ n p, Reaches source none ty n p ∧ e = ⟨n.start, n.stop, replacement p target⟩

theorem mem_typeEdits {ty : Node} {target : String} {e : Edit} :
    e ∈ typeEdits ty target source ↔ BlobEdit source ty target e := by
  unfold typeEdits BlobEdit
  split
  · next held =>
    simp only [Bool.and_eq_true] at held
    simp [held]
  · next free =>
    simp only [Bool.and_eq_true] at free
    simp only [List.mem_map, Prod.exists, ← mem_collect]
    constructor
    · rintro ⟨n, p, found, rfl⟩
      exact ⟨free, n, p, found, rfl⟩
    · rintro ⟨_, n, p, found, rfl⟩
      exact ⟨n, p, found, rfl⟩

end Blob

def PropertyEdit (source : String) (obj : Node) (targetOf : String → Option String)
    (e : Edit) : Prop :=
  ∃ prop ∈ objectProperties obj source, ∃ target ty, targetOf prop.name = some target ∧
    prop.type? = some ty ∧ Blob.BlobEdit source ty target e

def wrapperTarget (field : Field) (name : String) : Option String :=
  if listMembers.contains name then field.replacement else none

theorem mem_fieldEdits {entity : Entity} {prop : Property} {e : Edit} :
    e ∈ fieldEdits entity source prop ↔ ∃ target ty, entity.replacementFor prop.name = some target ∧
      prop.type? = some ty ∧ Blob.BlobEdit source ty target e := by
  unfold fieldEdits
  split
  · next target ty named typed => simp [named, typed, Blob.mem_typeEdits]
  · next untouched =>
    simp only [List.not_mem_nil, false_iff]
    rintro ⟨target, ty, named, typed, _⟩
    exact untouched target ty named typed

theorem mem_objectEdits {obj : Node} {entity : Entity} {e : Edit} :
    e ∈ (objectProperties obj source).flatMap (fieldEdits entity source) ↔
      PropertyEdit source obj entity.replacementFor e := by
  simp only [List.mem_flatMap, mem_fieldEdits, PropertyEdit]

theorem mem_wrapperEdits {obj : Node} {field : Field} {e : Edit} :
    e ∈ wrapperEdits obj field source ↔ PropertyEdit source obj (wrapperTarget field) e := by
  unfold wrapperEdits PropertyEdit wrapperTarget
  cases replaced : field.replacement with
  | none => simp
  | some target =>
    simp only [List.mem_flatMap, listMemberProperties, List.mem_filter, memberEdits]
    constructor
    · rintro ⟨prop, ⟨member, listed⟩, edited⟩
      split at edited
      · next ty typed =>
        exact ⟨prop, member, target, ty, by simpa using listed, typed, Blob.mem_typeEdits.mp edited⟩
      · cases edited
    · rintro ⟨prop, member, target', ty, named, typed, edit⟩
      obtain ⟨listed, rfl⟩ : prop.name ∈ listMembers ∧ target = target' := by simpa using named
      exact ⟨prop, ⟨member, by simpa using listed⟩, by simpa [typed] using Blob.mem_typeEdits.mpr edit⟩

theorem Syntax.Node.le_heightList {c : Node} : ∀ {cs : List Node}, c ∈ cs → c.height ≤ Node.heightList cs
  | d :: ds, member => by
    rw [Node.heightList]
    rcases List.mem_cons.mp member with rfl | later
    · exact Nat.le_max_left _ _
    · exact Nat.le_trans (le_heightList later) (Nat.le_max_right _ _)

theorem Syntax.Node.height_lt {n c : Node} (child : c ∈ n.children) : c.height < n.height := by
  obtain ⟨kind, role, start, stop, children⟩ := n
  rw [Node.height]
  exact Nat.lt_succ_of_le (Node.le_heightList child)

mutual

theorem nestedObjects_height : ∀ {n o : Node}, o ∈ nestedObjects n → o.height ≤ n.height
  | ⟨kind, role, start, stop, children⟩, o, member => by
    simp only [nestedObjects] at member
    split at member
    · rw [List.mem_singleton] at member
      subst member
      exact Nat.le_refl _
    · rw [Node.height]
      exact Nat.le_succ_of_le (nestedObjectsList_height member)

theorem nestedObjectsList_height : ∀ {cs : List Node} {o : Node}, o ∈ nestedObjectsList cs →
    o.height ≤ Node.heightList cs
  | [], o, member => by simp [nestedObjectsList] at member
  | c :: cs, o, member => by
    rw [nestedObjectsList, List.mem_append] at member
    rw [Node.heightList]
    rcases member with inC | inRest
    · exact Nat.le_trans (nestedObjects_height inC) (Nat.le_max_left _ _)
    · exact Nat.le_trans (nestedObjectsList_height inRest) (Nat.le_max_right _ _)

end

theorem Property.type_height {obj t : Node} {p : Property} (member : p ∈ objectProperties obj source)
    (typed : p.type? = some t) : t.height < obj.height := by
  obtain ⟨n, filtered, made⟩ := List.mem_filterMap.mp member
  obtain ⟨typeField, field, first⟩ := Property.ofNode_type made typed
  have typeBelow := Node.height_lt (Node.firstChild_mem first)
  have fieldBelow := Node.height_lt (Node.field_mem field)
  have propertyBelow := Node.height_lt (List.mem_filter.mp filtered).1
  omega

def RelationShape (c : Catalog) (source : String) (relation : Property) (nested : Node)
    (related : Entity) : Prop :=
  ∃ ty, relation.type? = some ty ∧ nested ∈ nestedObjects ty ∧
    resolveNested c source nested ty = .ok (some related)

def Related (c : Catalog) (source : String) (payload nested : Node) (related : Entity) : Prop :=
  ∃ member ∈ relationMembers, ∃ relations,
    (objectProperty? payload member source).bind (·.type?) = some relations ∧
      relations.kind = .objectType ∧
        ∃ relation ∈ objectProperties relations source, RelationShape c source relation nested related

theorem nested_height_lt {payload relations ty nested : Node} {member : String}
    {relation : Property}
    (typed : (objectProperty? payload member source).bind (·.type?) = some relations)
    (isRelation : relation ∈ objectProperties relations source) (relationTyped : relation.type? = some ty)
    (isNested : nested ∈ nestedObjects ty) : nested.height < payload.height := by
  obtain ⟨p, found, pTyped⟩ := Option.bind_eq_some_iff.mp typed
  have relationsBelow := Property.type_height (objectProperty_mem found).1 pTyped
  have tyBelow := Property.type_height isRelation relationTyped
  have nestedBelow := nestedObjects_height isNested
  omega

inductive Dispatches (c : Catalog) (source : String) : Node → Entity → Node → Entity → Prop
  | plain {obj : Node} {entity : Entity} : objectProperty? obj "scalars" source = none →
      Dispatches c source obj entity obj entity
  | scalars {payload obj : Node} {entity : Entity} :
      (((objectProperty? payload "scalars" source).bind (·.type?)).bind
        fun ty => (nestedObjects ty).head?) = some obj →
      Dispatches c source payload entity obj entity
  | relation {payload nested obj : Node} {entity related owner : Entity} :
      (objectProperty? payload "scalars" source).isSome → Related c source payload nested related →
      Dispatches c source nested related obj owner → Dispatches c source payload entity obj owner

def DispatchedEdit (c : Catalog) (source : String) (root : Node) (entity : Entity) (e : Edit) :
    Prop :=
  ∃ obj owner, Dispatches c source root entity obj owner ∧ PropertyEdit source obj owner.replacementFor e

theorem dispatchedEdit_plain {c : Catalog} {obj : Node} {entity : Entity} {e : Edit}
    (noScalars : objectProperty? obj "scalars" source = none) :
    DispatchedEdit c source obj entity e ↔ PropertyEdit source obj entity.replacementFor e := by
  constructor
  · rintro ⟨obj', owner, dispatched, edit⟩
    cases dispatched with
    | plain _ => exact edit
    | scalars found => simp [noScalars] at found
    | relation hasScalars _ _ => simp [noScalars] at hasScalars
  · intro edit
    exact ⟨obj, entity, .plain noScalars, edit⟩

theorem dispatchedEdit_payload {c : Catalog} {payload scalars : Node} {entity : Entity} {e : Edit}
    (found : ((objectProperty? payload "scalars" source).bind (·.type?)).bind
      (fun ty => (nestedObjects ty).head?) = some scalars) :
    DispatchedEdit c source payload entity e ↔ PropertyEdit source scalars entity.replacementFor e ∨
      ∃ nested related, Related c source payload nested related ∧
        DispatchedEdit c source nested related e := by
  have hasScalars : (objectProperty? payload "scalars" source).isSome := by
    obtain ⟨ty, typed, _⟩ := Option.bind_eq_some_iff.mp found
    obtain ⟨p, pFound, _⟩ := Option.bind_eq_some_iff.mp typed
    simp [pFound]
  constructor
  · rintro ⟨obj, owner, dispatched, edit⟩
    cases dispatched with
    | plain none => simp [none] at hasScalars
    | scalars found' =>
      rw [found] at found'
      cases found'
      exact .inl edit
    | relation _ shape inner => exact .inr ⟨_, _, shape, _, _, inner, edit⟩
  · rintro (edit | ⟨nested, related, shape, obj, owner, inner, edit⟩)
    · exact ⟨scalars, entity, .scalars found, edit⟩
    · exact ⟨obj, owner, .relation hasScalars shape inner, edit⟩

mutual

theorem retypePayload_exact (c : Catalog) :
    ∀ fuel aliasName payload entity, 2 * payload.height + 2 ≤ fuel →
      (retypePayload c source fuel aliasName payload entity).Exact (fun _ => True)
        (DispatchedEdit c source payload entity)
  | 0, _, _, _, enough => absurd enough (by omega)
  | fuel + 1, aliasName, payload, entity, enough => by
    rw [retypePayload.eq_2]
    split
    · next scalars found =>
      refine (exact_bind (exact_modifyGet (retypeObject_swap scalars entity))
        (fun n => exact_bind_pure _ (exact_forIn (fun member _ n => (?_ : Exact
          (fun step => ∃ b', step = ForInStep.yield b')
          (fun e => ∃ relations, (objectProperty? payload member source).bind (·.type?) = some relations ∧
            relations.kind = .objectType ∧ ∃ relation ∈ objectProperties relations source,
              ∃ nested related, RelationShape c source relation nested related ∧
                DispatchedEdit c source nested related e) _)) n) fun _ _ => trivial)).congr ?_
      · split
        · next relations typed =>
          split
          · next notObject => exact exact_pure_quiet ⟨n, rfl⟩ fun e => by simp_all
          · next isObject =>
            refine (exact_bind_pure _ (exact_forIn (fun relation isRelation n => (?_ : Exact
              (fun step => ∃ b', step = ForInStep.yield b')
              (fun e => ∃ nested related, RelationShape c source relation nested related ∧
                DispatchedEdit c source nested related e) _)) n) fun _ _ => ⟨_, rfl⟩).congr
              fun _ _ e => ?_
            · split
              · next ty relationTyped =>
                refine (exact_bind_pure _ (exact_forIn (fun nested isNested n => (?_ : Exact
                  (fun step => ∃ b', step = ForInStep.yield b')
                  (fun e => ∃ related, resolveNested c source nested ty = .ok (some related) ∧
                    DispatchedEdit c source nested related e) _)) n) fun _ _ => ⟨_, rfl⟩).congr
                  fun _ _ e => ?_
                · refine (exact_bind (exact_liftExcept _) fun resolved => (?_ : Exact
                    (fun step => ∃ b', step = ForInStep.yield b')
                    (fun e => ∃ related, resolved = some related ∧
                      DispatchedEdit c source nested related e) _)).congr fun _ _ e => ?_
                  · split
                    · next related =>
                      -- the nested shape lies strictly below the payload, so the fuel lasts
                      have below : 2 * nested.height + 3 ≤ fuel := by
                        have := nested_height_lt typed isRelation relationTyped isNested
                        omega
                      exact (exact_bind_pure _ (retypeEntityObject_exact c fuel _ nested related below)
                        fun _ _ => ⟨_, rfl⟩).congr fun _ _ e => by simp
                    · next none =>
                      refine exact_pure_quiet ⟨n, rfl⟩ fun e => ?_
                      rintro ⟨related, same, _⟩
                      exact none related same
                  · simp [outcome_liftExcept]
                · simp only [RelationShape, relationTyped, Option.some.injEq, exists_eq_left']
                  constructor
                  · rintro ⟨nested, isNested, related, resolved, edit⟩
                    exact ⟨nested, related, ⟨isNested, resolved⟩, edit⟩
                  · rintro ⟨nested, related, ⟨isNested, resolved⟩, edit⟩
                    exact ⟨nested, isNested, related, resolved, edit⟩
              · next untyped =>
                refine exact_pure_quiet ⟨n, rfl⟩ fun e => ?_
                rintro ⟨_, _, ⟨ty, typed, _⟩, _⟩
                exact untyped ty typed
            · have kind : relations.kind = .objectType := by simpa using isObject
              simp [typed, kind]
        · next untyped => exact exact_pure_quiet ⟨n, rfl⟩ fun e => by simp_all
      · intro r _ e
        have stepped := (appendsOnly_modifyGet (@retypeObject_swap source scalars entity)).2.1
        simp only [stepped, Except.ok.injEq, exists_eq_left', mem_objectEdits]
        rw [dispatchedEdit_payload found]
        -- the loops found each shape member by member; `Related` names the member inside
        refine or_congr_right ⟨?_, ?_⟩
        · rintro ⟨member, isMember, relations, typed, kind, relation, isRelation, nested, related,
            shape, inner⟩
          exact ⟨nested, related,
            ⟨member, isMember, relations, typed, kind, relation, isRelation, shape⟩, inner⟩
        · rintro ⟨nested, related, ⟨member, isMember, relations, typed, kind, relation, isRelation,
            shape⟩, inner⟩
          exact ⟨member, isMember, relations, typed, kind, relation, isRelation, nested, related,
            shape, inner⟩
    · exact exact_throw _

theorem retypeEntityObject_exact (c : Catalog) :
    ∀ fuel name obj entity, 2 * obj.height + 3 ≤ fuel →
      (retypeEntityObject c source fuel name obj entity).Exact (fun _ => True)
        (DispatchedEdit c source obj entity)
  | 0, _, _, _, enough => absurd enough (by omega)
  | fuel + 1, name, obj, entity, enough => by
    rw [retypeEntityObject.eq_2]
    split
    · exact retypePayload_exact c fuel name obj entity (by omega)
    · next plain =>
      have noScalars : objectProperty? obj "scalars" source = none := by simpa using plain
      refine ((exact_modifyGet (retypeObject_swap obj entity)).weaken fun _ _ => trivial).congr
        fun _ _ e => ?_
      rw [mem_objectEdits, dispatchedEdit_plain noScalars]

end

/-- An edit the pass makes for a type alias, by what the alias's name is classified as: the
fields of its object type for an entity's object; what its payload dispatches for a payload;
the `set` and `push` members for a scalar-list wrapper of a field. -/
def AliasEdit (c : Catalog) (source : String) (a : TypeAlias) (e : Edit) : Prop :=
  a.value.kind = .objectType ∧
    ((∃ entity resolution, classify c a.name true = .ok (.object entity resolution) ∧
        PropertyEdit source a.value entity.replacementFor e) ∨
      (∃ entity, classify c a.name true = .ok (.payload entity) ∧
        DispatchedEdit c source a.value entity e) ∨
      (∃ entity field, classify c a.name true = .ok (.listField entity field) ∧
        PropertyEdit source a.value (wrapperTarget field) e))

theorem aliasRun_exact (c : Catalog) {a : TypeAlias} (value : a.value ∈ a.node.children) :
    (aliasRun c source a).Exact (fun _ => True) (AliasEdit c source a) := by
  unfold aliasRun handleAlias
  split
  · exact exact_throw _
  · next d classified =>
    split
    · next notObject =>
      refine exact_pure_quiet trivial fun e => ?_
      have kind : a.value.kind ≠ .objectType := by
        intro isObject
        simp [TypeAlias.object?, isObject] at notObject
      simp [AliasEdit, kind]
    · next obj found =>
      have same := TypeAlias.object_eq found
      subst same
      have kind : a.value.kind = .objectType := by
        unfold TypeAlias.object? at found
        split at found
        · next isObject => simpa using isObject
        · cases found
      rw [found, Option.isSome_some] at classified
      -- every other classification rules out the three that edit
      split
      · exact exact_pure_quiet trivial fun e => by simp [AliasEdit, classified]
      · exact exact_pure_quiet trivial fun e => by simp [AliasEdit, classified]
      · exact exact_pure_quiet trivial fun e => by simp [AliasEdit, classified]
      · next entity =>
        have enough : 2 * a.value.height + 2 ≤ 2 * a.node.height + 2 := by
          have := Node.height_lt value
          omega
        refine (retypePayload_exact c _ a.name a.value entity enough).congr fun _ _ e => ?_
        simp [AliasEdit, classified, kind]
      · next entity resolution =>
        refine ((exact_modifyGet (retypeObject_swap a.value entity)).weaken fun _ _ => trivial).congr
          fun _ _ e => ?_
        rw [mem_objectEdits]
        simp [AliasEdit, classified, kind]
      · next entity field =>
        refine ((exact_modifyGet (retypeListWrapper_swap a.value field)).weaken
          fun _ _ => trivial).congr fun _ _ e => ?_
        rw [mem_wrapperEdits]
        simp [AliasEdit, classified, kind]

theorem mem_keptEdits (c : Catalog) {a : TypeAlias} (value : a.value ∈ a.node.children)
    {e : Edit} :
    e ∈ keptEdits c source a ↔ (aliasFailure? c source a).isNone ∧ AliasEdit c source a e := by
  unfold keptEdits aliasFailure?
  split
  · next n succeeded =>
    simpa only [Option.isNone_none, true_and] using ((aliasRun_exact c value).2 n succeeded).2 e
  · simp

theorem mem_freshModule (c : Catalog) (wf : (parseModule source).WellFormed source) {e : Edit} :
    e ∈ (retypeModule parseModule source c {}).1.edits ↔ ∃ a ∈ (walkModule (parseModule source) source).aliases,
      (aliasFailure? c source a).isNone ∧ AliasEdit c source a e := by
  have value := fun a member => ((walkModule_aliases wf).2 a member).2
  rw [freshModule_edits, List.mem_flatMap]
  constructor
  · rintro ⟨a, member, kept⟩
    exact ⟨a, member, (mem_keptEdits c (value a member)).mp kept⟩
  · rintro ⟨a, member, edited⟩
    exact ⟨a, member, (mem_keptEdits c (value a member)).mpr edited⟩

/-- A retype of a well-formed source replaces exactly the blob references the pass
dispatches. The output is the source with a set of edits spliced in, placed between
characters and apart from each other, as many as the report counts; an edit is among them
exactly when an alias that does not fail dispatches it: a blob reference below the type of a
property of an object the alias's classification dispatches, replaced by the annotation its
owner gives the property, in parentheses where its place needs them. -/
theorem retypeSource_replaces_blob_refs (parseModule : String → Tree) (source : String) (c : Catalog)
    (wf : (parseModule source).WellFormed source) {out : String} {report : Report}
    (retyped : retypeSource parseModule source c = .ok (out, report)) :
    ∃ edits : List Edit, out = Patch.splice source 0 (edits.mergeSort Edit.byRange) ∧
      report.edits = edits.length ∧ Placed source 0 source.utf8ByteSize edits ∧
      ∀ e, e ∈ edits ↔ ∃ a ∈ (walkModule (parseModule source) source).aliases,
        (aliasFailure? c source a).isNone ∧ AliasEdit c source a e := by
  obtain ⟨succeeded, applied⟩ := retypeSource_ok retyped
  have placed := freshModule_placed c wf
  refine ⟨(retypeModule parseModule source c {}).1.edits, ?_, ?_, placed, fun e => mem_freshModule c wf⟩
  · rw [Patch.apply_placed placed] at applied
    exact (Except.ok.inj applied).symm
  · rw [((retypeModule_result parseModule source c {}).2 report succeeded).2, freshModule_edits]

theorem retypeSource_replaces_blob_refs_user :
    ∃ c out report, Catalog.ofEntities [⟨"User", .model, [⟨"a", "Json", some "Settings"⟩]⟩] = .ok c ∧
      retypeSource parse "type User = \x7b a: JsonValue \x7d" c = .ok (out, report) ∧
      ∃ edits : List Edit,
        out = Patch.splice "type User = \x7b a: JsonValue \x7d" 0 (edits.mergeSort Edit.byRange) ∧
        report.edits = edits.length ∧
        Placed "type User = \x7b a: JsonValue \x7d" 0 "type User = \x7b a: JsonValue \x7d".utf8ByteSize
          edits ∧
        ∀ e, e ∈ edits ↔ ∃ a ∈ (walkModule (parse "type User = \x7b a: JsonValue \x7d")
            "type User = \x7b a: JsonValue \x7d").aliases,
          (aliasFailure? c "type User = \x7b a: JsonValue \x7d" a).isNone ∧
            AliasEdit c "type User = \x7b a: JsonValue \x7d" a e := by
  obtain ⟨c, catalog⟩ : ∃ c, Catalog.ofEntities
      [⟨"User", .model, [⟨"a", "Json", some "Settings"⟩]⟩] = .ok c :=
    ⟨_, Catalog.ofEntities_single (by decide)⟩
  have classified := classify_single (by decide) catalog
  obtain ⟨report, run, _⟩ : ∃ r, retypeSource parse "type User = \x7b a: JsonValue \x7d" c =
      .ok ("type User = \x7b a: Settings \x7d", r) ∧
      r.edits = [(⟨17, 26, "Settings"⟩ : Edit)].length :=
    retypeSource_named classified (by decide +kernel)
  exact ⟨c, _, report, catalog, run, retypeSource_replaces_blob_refs parse _ c (by decide +kernel) run⟩

end TypedJson
