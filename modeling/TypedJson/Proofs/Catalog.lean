import Mathlib.Data.List.TakeDrop
import Mathlib.Data.List.TakeWhile
import Mathlib.Data.String.Basic
import TypedJson.Catalog
import TypedJson.Retype.Classify
/-!
# Building a catalog

The names the generator emits for an entity are kept sorted as they are collected, so they are
distinct, and the first template makes the entity's own name one of them. Claiming alias names
that are distinct and not yet taken always succeeds and records the owner under each of them.
A catalog built from one tagged entity therefore resolves every name the generator emits for
it, and classifies the entity's own name as a direct object.

Every template holds one `%`, so taking a template's two sides off a name it made gives back
the entity: an entity is among the template bases of each of its names. A catalog that builds
describes its entities (`Catalog.Describes`): untagged ones are no-ops, each tagged one claims
all of its names and is found under its own name, and nothing else is claimed.
-/
namespace TypedJson.Naming

open Text

theorem mem_insertSorted {a x : String} {l : List String} :
    a ∈ insertSorted x l ↔ a = x ∨ a ∈ l := by
  induction l with
  | nil => simp [insertSorted]
  | cons y ys ih =>
    unfold insertSorted
    split
    · simp
    · split
      · next same =>
        rw [beq_iff_eq.mp same]
        simp
      · simp only [List.mem_cons, ih]
        tauto

theorem insertSorted_sorted (x : String) {l : List String} (sorted : l.Pairwise (· < ·)) :
    (insertSorted x l).Pairwise (· < ·) := by
  induction l with
  | nil => simp [insertSorted]
  | cons y ys ih =>
    obtain ⟨below, rest⟩ := List.pairwise_cons.mp sorted
    unfold insertSorted
    split
    · next before =>
      refine List.Pairwise.cons (fun b member => ?_) sorted
      rcases List.mem_cons.mp member with rfl | later
      · exact before
      · exact lt_trans before (below b later)
    · split
      · exact sorted
      · next notBefore different =>
        have after : y < x :=
          lt_of_le_of_ne (not_lt.mp notBefore) fun same => different (beq_iff_eq.mpr same.symm)
        refine List.Pairwise.cons (fun b member => ?_) (ih rest)
        rcases mem_insertSorted.mp member with rfl | later
        · exact after
        · exact below b later

theorem foldl_insertSorted (entity : String) :
    ∀ (templates acc : List String), acc.Pairwise (· < ·) →
      (templates.foldl (fun acc t => insertSorted (instantiate entity t) acc) acc).Pairwise (· < ·) ∧
        ∀ a ∈ acc, a ∈ templates.foldl (fun acc t => insertSorted (instantiate entity t) acc) acc
  | [], _, sorted => ⟨sorted, fun _ member => member⟩
  | t :: ts, acc, sorted => by
    obtain ⟨stillSorted, kept⟩ := foldl_insertSorted entity ts _ (insertSorted_sorted _ sorted)
    exact ⟨stillSorted, fun a member => kept a (mem_insertSorted.mpr (.inr member))⟩

theorem namesFor_nodup (entity : String) : (namesFor entity).Nodup :=
  (foldl_insertSorted entity aliasTemplates [] List.Pairwise.nil).1.imp ne_of_lt

theorem mem_namesFor_self (entity : String) : entity ∈ namesFor entity := by
  have own : instantiate entity "%" = entity := by
    simp [instantiate, show "%".toList = ['%'] from rfl]
  unfold namesFor aliasTemplates
  rw [List.foldl_cons]
  refine (foldl_insertSorted entity _ _ (insertSorted_sorted _ List.Pairwise.nil)).2 _ ?_
  rw [own]
  exact mem_insertSorted.mpr (.inl rfl)

theorem ne_payloadName (entity : String) : entity ≠ payloadName entity := by
  intro same
  have lengths := congrArg String.length same
  have suffix : "Payload".length = 7 := by decide
  simp only [payloadName, String.length_append, suffix] at lengths
  omega

theorem aliasTemplates_count : ∀ t ∈ aliasTemplates, t.toList.count '%' = 1 := by
  decide +kernel

theorem splitTemplate_eq {t : String} (once : t.toList.count '%' = 1) :
    ∃ pre suf, splitTemplate t = some (pre, suf) ∧ t.toList = pre ++ '%' :: suf ∧ '%' ∉ pre ∧
      '%' ∉ suf := by
  have whole := List.takeWhile_append_dropWhile (p := (· != '%')) (l := t.toList)
  have before : '%' ∉ t.toList.takeWhile (· != '%') := fun member => by
    simpa using List.mem_takeWhile_imp member
  simp only [splitTemplate, List.span_eq_takeWhile_dropWhile]
  cases rest : t.toList.dropWhile (· != '%') with
  | nil =>
    rw [rest, List.append_nil] at whole
    rw [← whole, List.count_eq_zero.mpr before] at once
    cases once
  | cons c suf =>
    have first : c = '%' := by
      simpa [rest] using List.head_dropWhile_not (· != '%') (l := t.toList) (by simp [rest])
    subst first
    rw [rest] at whole
    have after : '%' ∉ suf := by
      rw [← whole, List.count_append, List.count_cons_self, List.count_eq_zero.mpr before] at once
      exact List.count_eq_zero.mp (by omega)
    exact ⟨_, suf, rfl, whole.symm, before, after⟩

theorem instantiate_toList (entity : String) {t : String} {pre suf : List Char}
    (split : t.toList = pre ++ '%' :: suf) (noPre : '%' ∉ pre) (noSuf : '%' ∉ suf) :
    (instantiate entity t).toList = pre ++ entity.toList ++ suf := by
  have plain : ∀ cs : List Char, '%' ∉ cs →
      (cs.map fun c => if c == '%' then entity else c.toString).flatMap String.toList = cs := by
    intro cs none
    induction cs with
    | nil => rfl
    | cons c cs ih =>
      simp only [List.mem_cons, not_or] at none
      have other : (c == '%') = false := beq_false_of_ne (Ne.symm none.1)
      simp only [List.map_cons, List.flatMap_cons, ih none.2, other]
      simp
  simp only [instantiate, String.toList_join, split, List.map_append, List.map_cons,
    List.flatMap_append, List.flatMap_cons, plain pre noPre, plain suf noSuf]
  simp

theorem templateBase?_instantiate {entity t : String} (template : t ∈ aliasTemplates)
    (named : entity ≠ "") : templateBase? (instantiate entity t) t = some entity := by
  obtain ⟨pre, suf, split, whole, noPre, noSuf⟩ := splitTemplate_eq (aliasTemplates_count t template)
  have rest : stripPrefix? pre (instantiate entity t).toList = some (entity.toList ++ suf) := by
    rw [stripPrefix?_eq_some_iff, instantiate_toList entity whole noPre noSuf, List.append_assoc]
  have base : stripSuffix? suf (entity.toList ++ suf) = some entity.toList :=
    (stripSuffix?_eq_some_iff _ _ _).mpr rfl
  simp [templateBase?, split, rest, base, named]

theorem mem_foldl_insertSorted (entity a : String) :
    ∀ (templates acc : List String),
      a ∈ templates.foldl (fun acc t => insertSorted (instantiate entity t) acc) acc ↔
        a ∈ acc ∨ ∃ t ∈ templates, a = instantiate entity t
  | [], acc => by simp
  | t :: ts, acc => by
    rw [List.foldl_cons, mem_foldl_insertSorted entity a ts, mem_insertSorted]
    simp only [List.mem_cons, exists_eq_or_imp]
    tauto

theorem mem_namesFor {a entity : String} :
    a ∈ namesFor entity ↔ ∃ t ∈ aliasTemplates, a = instantiate entity t := by
  simp [namesFor, mem_foldl_insertSorted]

theorem mem_templateBases {a entity : String} (emitted : a ∈ namesFor entity)
    (named : entity ≠ "") : entity ∈ templateBases a := by
  obtain ⟨t, template, rfl⟩ := mem_namesFor.mp emitted
  exact List.mem_filterMap.mpr ⟨t, template, templateBase?_instantiate template named⟩

end TypedJson.Naming

namespace TypedJson.Catalog

def claimAll (owner : String) (names : List String) (m : Std.HashMap String String) :
    Std.HashMap String String :=
  names.foldl (fun m a => m.insert a owner) m

theorem claim_fresh (owner : String) :
    ∀ (names : List String) (m : Std.HashMap String String), names.Nodup →
      (∀ a ∈ names, m[a]? = none) → claim owner names m = .ok (claimAll owner names m)
  | [], _, _, _ => rfl
  | a :: rest, m, distinct, fresh => by
    obtain ⟨notLater, restDistinct⟩ := List.nodup_cons.mp distinct
    simp only [claim, fresh a (List.mem_cons_self ..)]
    refine claim_fresh owner rest (m.insert a owner) restDistinct fun b member => ?_
    have different : a ≠ b := fun same => notLater (same ▸ member)
    rw [Std.HashMap.getElem?_insert]
    simp [different, fresh b (List.mem_cons_of_mem a member)]

theorem claimAll_lookup_of_not_mem (owner : String) :
    ∀ (names : List String) (m : Std.HashMap String String) {a : String}, a ∉ names →
      (claimAll owner names m)[a]? = m[a]?
  | [], _, _, _ => rfl
  | b :: rest, m, a, outside => by
    have different : b ≠ a := fun same => outside (same ▸ List.mem_cons_self ..)
    unfold claimAll
    rw [List.foldl_cons]
    refine (claimAll_lookup_of_not_mem owner rest (m.insert b owner)
      (fun inRest => outside (List.mem_cons_of_mem b inRest))).trans ?_
    rw [Std.HashMap.getElem?_insert]
    simp [different]

theorem claimAll_lookup (owner : String) :
    ∀ (names : List String) (m : Std.HashMap String String) {a : String}, a ∈ names →
      (claimAll owner names m)[a]? = some owner
  | [], _, _, member => by cases member
  | b :: rest, m, a, member => by
    unfold claimAll
    rw [List.foldl_cons]
    by_cases later : a ∈ rest
    · exact claimAll_lookup owner rest (m.insert b owner) later
    · have first : b = a := by
        rcases List.mem_cons.mp member with same | inRest
        · exact same.symm
        · exact absurd inRest later
      subst first
      -- the owner stays recorded under a name no later claim touches
      exact (claimAll_lookup_of_not_mem owner rest _ later).trans (by simp)

theorem claim_ok {owner : String} :
    ∀ {names : List String} {m m' : Std.HashMap String String}, claim owner names m = .ok m' →
      m' = claimAll owner names m ∧ ∀ a ∈ names, m[a]? = none
  | [], _, _, claimed => by cases claimed; exact ⟨rfl, by simp⟩
  | a :: rest, m, m', claimed => by
    unfold claim at claimed
    split at claimed
    · cases claimed
    · next free =>
      obtain ⟨recorded, restFree⟩ := claim_ok claimed
      refine ⟨recorded, fun b member => ?_⟩
      rcases List.mem_cons.mp member with rfl | later
      · exact free
      · have := restFree b later
        rw [Std.HashMap.getElem?_insert] at this
        split at this
        · cases this
        · exact this

theorem add_untagged {c : Catalog} {e : Entity} (untagged : e.hasReplacements = false) :
    c.add e = .ok { c with noOps := c.noOps.insert e.name } := by
  simp only [add, untagged, Bool.not_false, if_true]
  rfl

theorem ofEntities_append_single (es : List Entity) (e : Entity) :
    ofEntities (es ++ [e]) = (ofEntities es).bind (·.add e) := by
  unfold ofEntities
  rw [List.foldlM_append]
  cases es.foldlM add {} with
  | error err => rfl
  | ok c =>
    show (c.add e >>= fun c' => pure c') = c.add e
    cases c.add e <;> rfl

structure Describes (es : List Entity) (c : Catalog) : Prop where
  noOp : ∀ e ∈ es, e.hasReplacements = false → c.isNoOp e.name = true
  claimed : ∀ e ∈ es, e.hasReplacements = true → ∀ a ∈ Naming.namesFor e.name,
    c.aliases[a]? = some e.name
  found : ∀ e ∈ es, e.hasReplacements = true → c.entity? e.name = some e
  emitted : ∀ a owner, c.aliases[a]? = some owner →
    ∃ e ∈ es, e.hasReplacements = true ∧ a ∈ Naming.namesFor e.name

theorem describes_empty : Describes [] {} where
  noOp := by simp
  claimed := by simp
  found := by simp
  emitted := by simp

theorem Describes.add {done : List Entity} {c c' : Catalog} {e : Entity}
    (described : Describes done c) (added : c.add e = .ok c') : Describes (done ++ [e]) c' := by
  unfold Catalog.add at added
  cases tagged : e.hasReplacements with
  | false =>
    simp only [tagged, Bool.not_false, if_true] at added
    cases added
    refine ⟨fun f member untagged => ?_, fun f member fTagged => ?_, fun f member fTagged => ?_,
      fun a owner held => ?_⟩
    · simp only [isNoOp, Std.HashSet.contains_insert, Bool.or_eq_true, beq_iff_eq]
      rcases List.mem_append.mp member with earlier | new
      · exact .inr (described.noOp f earlier untagged)
      · exact .inl (congrArg Entity.name (List.mem_singleton.mp new)).symm
    · rcases List.mem_append.mp member with earlier | new
      · exact described.claimed f earlier fTagged
      · rw [List.mem_singleton.mp new, tagged] at fTagged
        cases fTagged
    · rcases List.mem_append.mp member with earlier | new
      · exact described.found f earlier fTagged
      · rw [List.mem_singleton.mp new, tagged] at fTagged
        cases fTagged
    · obtain ⟨f, member, fTagged, emitted⟩ := described.emitted a owner held
      exact ⟨f, List.mem_append_left _ member, fTagged, emitted⟩
  | true =>
    simp only [tagged, Bool.not_true, Bool.false_eq_true, if_false] at added
    cases claimed : claim e.name (Naming.namesFor e.name) c.aliases with
    | error err =>
      rw [claimed] at added
      cases added
    | ok aliases =>
      rw [claimed] at added
      cases added
      obtain ⟨recorded, free⟩ := claim_ok claimed
      -- the new claims, read off without unfolding them in the goal
      have own : ∀ a ∈ Naming.namesFor e.name, aliases[a]? = some e.name := by
        intro a inside
        rw [recorded]
        exact claimAll_lookup _ _ _ inside
      have others : ∀ a ∉ Naming.namesFor e.name, aliases[a]? = c.aliases[a]? := by
        intro a outside
        rw [recorded]
        exact claimAll_lookup_of_not_mem _ _ _ outside
      clear recorded claimed
      -- an earlier tagged entity of the same name would already hold that name
      have renamed : ∀ f ∈ done, f.hasReplacements = true → f.name ≠ e.name := by
        intro f member fTagged same
        have held := described.claimed f member fTagged f.name (Naming.mem_namesFor_self _)
        rw [same, free e.name (Naming.mem_namesFor_self _)] at held
        cases held
      refine ⟨fun f member untagged => ?_, fun f member fTagged a emitted => ?_,
        fun f member fTagged => ?_, fun a owner held => ?_⟩
      · rcases List.mem_append.mp member with earlier | new
        · exact described.noOp f earlier untagged
        · rw [List.mem_singleton.mp new, tagged] at untagged
          cases untagged
      · show aliases[a]? = some f.name
        rcases List.mem_append.mp member with earlier | new
        · have before := described.claimed f earlier fTagged a emitted
          have outside : a ∉ Naming.namesFor e.name := fun inside => by
            rw [free a inside] at before
            cases before
          rw [others a outside]
          exact before
        · rw [List.mem_singleton.mp new] at emitted ⊢
          exact own a emitted
      · show (c.entities.insert e.name e)[f.name]? = some f
        rcases List.mem_append.mp member with earlier | new
        · have different := renamed f earlier fTagged
          rw [Std.HashMap.getElem?_insert, if_neg (by simpa using Ne.symm different)]
          exact described.found f earlier fTagged
        · simp [List.mem_singleton.mp new]
      · change aliases[a]? = some owner at held
        by_cases inside : a ∈ Naming.namesFor e.name
        · exact ⟨e, List.mem_append_right _ (List.mem_singleton_self e), tagged, inside⟩
        · rw [others a inside] at held
          obtain ⟨f, member, fTagged, emitted⟩ := described.emitted a owner held
          exact ⟨f, List.mem_append_left _ member, fTagged, emitted⟩

theorem Describes.foldlM {done : List Entity} {c : Catalog} (described : Describes done c) :
    ∀ {es : List Entity} {c' : Catalog}, es.foldlM Catalog.add c = .ok c' → Describes (done ++ es) c'
  | [], c', built => by
    cases built
    simpa using described
  | e :: es, c', built => by
    rw [List.foldlM_cons] at built
    cases added : c.add e with
    | error err =>
      rw [added] at built
      cases built
    | ok c₁ =>
      rw [added] at built
      simpa using (described.add added).foldlM built

theorem ofEntities_describes {es : List Entity} {c : Catalog} (built : ofEntities es = .ok c) :
    Describes es c := by
  simpa using describes_empty.foldlM built

theorem ofEntities_single {e : Entity} (tagged : e.hasReplacements = true) :
    ofEntities [e] = .ok ⟨claimAll e.name (Naming.namesFor e.name) ∅,
      (∅ : Std.HashMap String Entity).insert e.name e, ∅⟩ := by
  have claimed := claim_fresh e.name (Naming.namesFor e.name) {} (Naming.namesFor_nodup _) (by simp)
  simp only [ofEntities, List.foldlM_cons, List.foldlM_nil, add, tagged, Bool.not_true,
    Bool.false_eq_true, if_false, claimed]
  rfl

end TypedJson.Catalog

namespace TypedJson

theorem classify_direct {c : Catalog} {name : String} {e : Entity}
    (tagged : c.isNoOp name = false) (owned : c.entityForAlias? name = some e)
    (notPayload : name ≠ Naming.payloadName e.name) :
    classify c name true = .ok (.object e .direct) := by
  simp only [classify, Bool.not_true, Bool.false_eq_true, if_false, tagged, owned, beq_iff_eq,
    notPayload]
  rfl

theorem classify_emitted_single {e : Entity} {c : Catalog} {a : String}
    (tagged : e.hasReplacements = true) (built : Catalog.ofEntities [e] = .ok c)
    (emitted : a ∈ Naming.namesFor e.name) (notPayload : a ≠ Naming.payloadName e.name) :
    classify c a true = .ok (.object e .direct) := by
  rw [Catalog.ofEntities_single tagged] at built
  obtain ⟨⟩ := Except.ok.inj built
  refine classify_direct ?_ ?_ notPayload
  · exact Std.HashSet.contains_empty
  · simp [Catalog.entityForAlias?, Catalog.claimAll_lookup _ _ _ emitted]

theorem classify_single {e : Entity} {c : Catalog} (tagged : e.hasReplacements = true)
    (built : Catalog.ofEntities [e] = .ok c) :
    classify c e.name true = .ok (.object e .direct) :=
  classify_emitted_single tagged built (Naming.mem_namesFor_self e.name) (Naming.ne_payloadName _)

end TypedJson
