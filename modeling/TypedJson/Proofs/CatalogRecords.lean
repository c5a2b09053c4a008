import Mathlib.Data.List.Induction
import Mathlib.Data.List.Nodup
import Mathlib.Data.List.Pairwise
import TypedJson.Proofs.Catalog
import TypedJson.Proofs.Lookups
/-!
# What a built catalog records

A catalog is built by adding the entities one after another. An untagged entity only becomes a
no-op; a tagged one claims its names in increasing order and stops at the first name already
taken. The invariant of the fold (`Catalog.Records`) says what the maps hold after any prefix,
exactly: the names of the tagged entities are pairwise apart, each alias belongs to the tagged
entity that emits it, the tagged entities are found under their names, the no-ops are the
untagged names, and each tagged entity holds 36 names, since no two templates make one name.

From it: a build succeeds exactly when the tagged entities' names are pairwise apart; a failed
build reports the first collision in list order, at the least name taken; and the lookups of a
built catalog do not depend on the order of the entities, so neither do classification and the
rewrites made with it.
-/
namespace TypedJson.Naming

theorem namesFor_sorted (entity : String) : (namesFor entity).Pairwise (· < ·) :=
  (foldl_insertSorted entity aliasTemplates [] List.Pairwise.nil).1

theorem aliasTemplates_split_length :
    ∀ t ∈ aliasTemplates, ∀ t' ∈ aliasTemplates, t.length = t'.length →
      (splitTemplate t).map (·.1.length) = (splitTemplate t').map (·.1.length) := by
  decide +kernel

theorem aliasTemplates_nodup : aliasTemplates.Nodup := by
  decide +kernel

theorem instantiate_injective {entity t t' : String} (tMember : t ∈ aliasTemplates)
    (otherMember : t' ∈ aliasTemplates) (same : instantiate entity t = instantiate entity t') :
    t = t' := by
  obtain ⟨pre, suf, split, whole, noPre, noSuf⟩ :=
    splitTemplate_eq (aliasTemplates_count t tMember)
  obtain ⟨pre', suf', split', whole', noPre', noSuf'⟩ :=
    splitTemplate_eq (aliasTemplates_count t' otherMember)
  have chars := congrArg String.toList same
  rw [instantiate_toList entity whole noPre noSuf,
    instantiate_toList entity whole' noPre' noSuf'] at chars
  -- the two templates have one length, so they put the entity at one place
  have lengths : t.length = t'.length := by
    have := congrArg List.length chars
    rw [← String.length_toList, ← String.length_toList, whole, whole']
    simp only [List.length_append, List.length_cons] at this ⊢
    omega
  have preLength : pre.length = pre'.length := by
    have := aliasTemplates_split_length t tMember t' otherMember lengths
    rw [split, split'] at this
    simpa using this
  rw [List.append_assoc, List.append_assoc] at chars
  obtain ⟨rfl, rest⟩ := List.append_inj chars preLength
  rw [List.append_cancel_left rest] at whole
  exact String.ext (whole.trans whole'.symm)

theorem namesFor_length (entity : String) : (namesFor entity).length = 36 := by
  have distinct : (aliasTemplates.map (instantiate entity)).Nodup :=
    List.Nodup.map_on (fun t tMember t' otherMember same => instantiate_injective tMember otherMember same)
      aliasTemplates_nodup
  have perm : (namesFor entity).Perm (aliasTemplates.map (instantiate entity)) :=
    (List.perm_ext_iff_of_nodup (namesFor_nodup entity) distinct).mpr fun a => by
      rw [mem_namesFor, List.mem_map]
      exact exists_congr fun t => and_congr_right fun _ => eq_comm
  rw [perm.length_eq, List.length_map]
  rfl

end TypedJson.Naming

namespace TypedJson.Catalog

open Naming

theorem lookup_insert_of_not_mem {owner a : String} {rest : List String}
    (m : Std.HashMap String String) (notLater : a ∉ rest) :
    ∀ b ∈ rest, (m.insert a owner)[b]? = m[b]? := by
  intro b member
  have different : a ≠ b := fun same => notLater (same ▸ member)
  rw [Std.HashMap.getElem?_insert]
  simp [different]

theorem claimAll_size (owner : String) :
    ∀ (names : List String) (m : Std.HashMap String String), names.Nodup →
      (∀ a ∈ names, m[a]? = none) → (claimAll owner names m).size = m.size + names.length
  | [], _, _, _ => rfl
  | a :: rest, m, distinct, fresh => by
    obtain ⟨notLater, restDistinct⟩ := List.nodup_cons.mp distinct
    have stillFresh : ∀ b ∈ rest, (m.insert a owner)[b]? = none := fun b member =>
      (lookup_insert_of_not_mem m notLater b member).trans (fresh b (List.mem_cons_of_mem a member))
    have absent : a ∉ m := (getElem?_eq_none_iff m a).mp (fresh a (List.mem_cons_self ..))
    unfold claimAll
    rw [List.foldl_cons]
    change (claimAll owner rest (m.insert a owner)).size = _
    rw [claimAll_size owner rest _ restDistinct stillFresh, Std.HashMap.size_insert, if_neg absent,
      List.length_cons]
    omega

theorem claim_error {owner : String} :
    ∀ {names : List String} {m : Std.HashMap String String} {err : Error}, names.Nodup →
      claim owner names m = .error err →
      ∃ pre a post existing, names = pre ++ a :: post ∧ (∀ b ∈ pre, m[b]? = none) ∧
        m[a]? = some existing ∧ err = .aliasCollision a existing owner
  | [], _, _, _, failed => by cases failed
  | a :: rest, m, err, distinct, failed => by
    unfold claim at failed
    split at failed
    · next existing held =>
      cases failed
      exact ⟨[], a, rest, existing, rfl, by simp, held, rfl⟩
    · next free =>
      obtain ⟨notLater, restDistinct⟩ := List.nodup_cons.mp distinct
      obtain ⟨pre, b, post, existing, split, before, held, reported⟩ := claim_error restDistinct failed
      -- the name claimed first is none of the later ones, so their lookups are untouched
      have untouched : ∀ x ∈ rest, (m.insert a owner)[x]? = m[x]? :=
        lookup_insert_of_not_mem m notLater
      refine ⟨a :: pre, b, post, existing, by rw [split, List.cons_append], fun x member => ?_,
        ?_, reported⟩
      · rcases List.mem_cons.mp member with rfl | inPre
        · exact free
        · rw [← untouched x (by simp [split, inPre])]
          exact before x inPre
      · rw [← untouched b (by simp [split])]
        exact held

theorem add_ok {c c' : Catalog} {e : Entity} (added : c.add e = .ok c') :
    (e.hasReplacements = false ∧ c' = { c with noOps := c.noOps.insert e.name }) ∨
    (e.hasReplacements = true ∧ (∀ a ∈ namesFor e.name, c.aliases[a]? = none) ∧
      c' = { c with aliases := claimAll e.name (namesFor e.name) c.aliases,
                    entities := c.entities.insert e.name e }) := by
  cases tagged : e.hasReplacements with
  | false =>
    rw [add_untagged tagged] at added
    exact .inl ⟨rfl, (Except.ok.inj added).symm⟩
  | true =>
    simp only [add, tagged, Bool.not_true, Bool.false_eq_true, if_false] at added
    cases claimed : claim e.name (namesFor e.name) c.aliases with
    | error err =>
      rw [claimed] at added
      cases added
    | ok aliases =>
      rw [claimed] at added
      cases added
      obtain ⟨recorded, free⟩ := claim_ok claimed
      exact .inr ⟨rfl, free, by rw [recorded]⟩

theorem add_error {c : Catalog} {e : Entity} {err : Error} (failed : c.add e = .error err) :
    e.hasReplacements = true ∧ ∃ pre a post existing, namesFor e.name = pre ++ a :: post ∧
      (∀ b ∈ pre, c.aliases[b]? = none) ∧ c.aliases[a]? = some existing ∧
      err = .aliasCollision a existing e.name := by
  cases tagged : e.hasReplacements with
  | false =>
    rw [add_untagged tagged] at failed
    cases failed
  | true =>
    simp only [add, tagged, Bool.not_true, Bool.false_eq_true, if_false] at failed
    cases claimed : claim e.name (namesFor e.name) c.aliases with
    | error err' =>
      rw [claimed] at failed
      cases failed
      exact ⟨rfl, claim_error (namesFor_nodup e.name) claimed⟩
    | ok aliases =>
      rw [claimed] at failed
      cases failed

theorem add_tagged {c : Catalog} {e : Entity} (tagged : e.hasReplacements = true)
    (free : ∀ a ∈ namesFor e.name, c.aliases[a]? = none) :
    c.add e = .ok { c with aliases := claimAll e.name (namesFor e.name) c.aliases,
                           entities := c.entities.insert e.name e } := by
  simp only [add, tagged, Bool.not_true, Bool.false_eq_true, if_false,
    claim_fresh e.name (namesFor e.name) c.aliases (namesFor_nodup e.name) free]
  rfl

theorem ofEntities_append_single_of_ok {es : List Entity} {c : Catalog} (e : Entity)
    (built : ofEntities es = .ok c) : ofEntities (es ++ [e]) = c.add e := by
  rw [ofEntities_append_single, built]
  rfl

def NamesApart (es : List Entity) : Prop :=
  (es.filter (·.hasReplacements)).Pairwise fun e f => (namesFor e.name).Disjoint (namesFor f.name)

theorem namesApart_append_single {es : List Entity} {e : Entity} :
    NamesApart (es ++ [e]) ↔ NamesApart es ∧ (e.hasReplacements = true →
      ∀ f ∈ es, f.hasReplacements = true → (namesFor f.name).Disjoint (namesFor e.name)) := by
  unfold NamesApart
  cases tagged : e.hasReplacements with
  | false => simp [List.filter_append, tagged]
  | true => simp [List.filter_append, tagged, List.pairwise_append]

theorem NamesApart.eq {es : List Entity} (apart : NamesApart es) {e f : Entity} (eMember : e ∈ es)
    (eTagged : e.hasReplacements = true) (fMember : f ∈ es) (fTagged : f.hasReplacements = true)
    {a : String} (inE : a ∈ namesFor e.name) (inF : a ∈ namesFor f.name) : e = f := by
  have : Std.Symm fun e f : Entity => (namesFor e.name).Disjoint (namesFor f.name) :=
    ⟨fun _ _ => List.disjoint_symm⟩
  by_contra different
  exact apart.forall (List.mem_filter.mpr ⟨eMember, eTagged⟩)
    (List.mem_filter.mpr ⟨fMember, fTagged⟩) different inE inF

theorem NamesApart.perm {es es' : List Entity} (perm : es.Perm es') :
    NamesApart es ↔ NamesApart es' :=
  (perm.filter _).pairwise_iff List.disjoint_symm

theorem NamesApart.of_append {es later : List Entity} (apart : NamesApart (es ++ later)) :
    NamesApart es := by
  unfold NamesApart at apart
  rw [List.filter_append, List.pairwise_append] at apart
  exact apart.1

theorem not_namesApart_of_meets {before : List Entity} {e f : Entity} {a : String}
    (tagged : e.hasReplacements = true) (member : f ∈ before) (fTagged : f.hasReplacements = true)
    (inE : a ∈ namesFor e.name) (inF : a ∈ namesFor f.name) :
    ¬ NamesApart (before ++ [e]) := fun apart =>
  (namesApart_append_single.mp apart).2 tagged f member fTagged inF inE

theorem not_namesApart_of_same_name {es : List Entity} {e f : Entity} (ordered : [e, f].Sublist es)
    (eTagged : e.hasReplacements = true) (fTagged : f.hasReplacements = true)
    (same : e.name = f.name) : ¬ NamesApart es := by
  intro apart
  have kept := ordered.filter (·.hasReplacements)
  rw [List.filter_cons_of_pos eTagged, List.filter_cons_of_pos fTagged, List.filter_nil] at kept
  have disjoint := List.pairwise_pair.mp (apart.sublist kept)
  have shared : e.name ∈ namesFor f.name := by
    rw [same]
    exact mem_namesFor_self f.name
  exact disjoint (mem_namesFor_self e.name) shared

structure Records (es : List Entity) (c : Catalog) : Prop where
  apart : NamesApart es
  aliases : ∀ a owner, c.aliases[a]? = some owner ↔
    ∃ e ∈ es, e.hasReplacements = true ∧ a ∈ namesFor e.name ∧ e.name = owner
  entities : ∀ n e, c.entities[n]? = some e ↔ e ∈ es ∧ e.hasReplacements = true ∧ e.name = n
  noOps : ∀ n, c.noOps.contains n = true ↔ ∃ e ∈ es, e.hasReplacements = false ∧ e.name = n
  size : c.aliases.size = 36 * (es.filter (·.hasReplacements)).length

theorem records_empty : Records [] {} where
  apart := List.Pairwise.nil
  aliases := by simp
  entities := by simp
  noOps := by simp
  size := by simp

section Add

variable {es : List Entity} {c : Catalog} {e : Entity}

theorem Records.free_iff (records : Records es c) :
    (∀ a ∈ namesFor e.name, c.aliases[a]? = none) ↔
      ∀ f ∈ es, f.hasReplacements = true → (namesFor f.name).Disjoint (namesFor e.name) := by
  constructor
  · intro free f member fTagged a inF inE
    have held := (records.aliases a f.name).mpr ⟨f, member, fTagged, inF, rfl⟩
    rw [free a inE] at held
    cases held
  · intro fresh a inE
    cases held : c.aliases[a]? with
    | none => rfl
    | some owner =>
      obtain ⟨f, member, fTagged, inF, -⟩ := (records.aliases a owner).mp held
      exact (fresh f member fTagged inF inE).elim

theorem Records.add_untagged (records : Records es c) (untagged : e.hasReplacements = false) :
    Records (es ++ [e]) { c with noOps := c.noOps.insert e.name } where
  apart := namesApart_append_single.mpr ⟨records.apart, fun tagged => by simp [untagged] at tagged⟩
  aliases a owner := by
    rw [records.aliases a owner]
    simp [untagged]
  entities n f := by
    rw [records.entities n f]
    simp only [List.mem_append, List.mem_singleton]
    constructor
    · rintro ⟨member, tagged, named⟩
      exact ⟨.inl member, tagged, named⟩
    · rintro ⟨member | rfl, tagged, named⟩
      · exact ⟨member, tagged, named⟩
      · simp [untagged] at tagged
  noOps n := by
    simp only [Std.HashSet.contains_insert, Bool.or_eq_true, beq_iff_eq, records.noOps n]
    simp only [List.mem_append, List.mem_singleton]
    constructor
    · rintro (rfl | ⟨f, member, rest⟩)
      · exact ⟨e, .inr rfl, untagged, rfl⟩
      · exact ⟨f, .inl member, rest⟩
    · rintro ⟨f, member | rfl, untagged', named⟩
      · exact .inr ⟨f, member, untagged', named⟩
      · exact .inl named
  size := by
    rw [records.size, List.filter_append, List.filter_singleton, untagged]
    simp

theorem Records.add_tagged (records : Records es c) (tagged : e.hasReplacements = true)
    (free : ∀ a ∈ namesFor e.name, c.aliases[a]? = none) :
    Records (es ++ [e]) { c with aliases := claimAll e.name (namesFor e.name) c.aliases,
                                 entities := c.entities.insert e.name e } := by
  have fresh := records.free_iff.mp free
  -- an earlier tagged entity of the same name would hold that name already
  have renamed : ∀ f ∈ es, f.hasReplacements = true → f.name ≠ e.name := by
    intro f member fTagged same
    have shared : f.name ∈ namesFor e.name := by
      rw [same]
      exact mem_namesFor_self e.name
    exact fresh f member fTagged (mem_namesFor_self f.name) shared
  refine ⟨namesApart_append_single.mpr ⟨records.apart, fun _ => fresh⟩, fun a owner => ?_,
    fun n f => ?_, fun n => ?_, ?_⟩
  · dsimp only
    simp only [List.mem_append, List.mem_singleton]
    by_cases inside : a ∈ namesFor e.name
    · rw [claimAll_lookup _ _ _ inside]
      constructor
      · intro claimed
        exact ⟨e, .inr rfl, tagged, inside, Option.some.inj claimed⟩
      · rintro ⟨f, earlier | rfl, fTagged, inF, rfl⟩
        · exact (fresh f earlier fTagged inF inside).elim
        · rfl
    · rw [claimAll_lookup_of_not_mem _ _ _ inside, records.aliases a owner]
      constructor
      · rintro ⟨f, member, rest⟩
        exact ⟨f, .inl member, rest⟩
      · rintro ⟨f, earlier | rfl, fTagged, inF, named⟩
        · exact ⟨f, earlier, fTagged, inF, named⟩
        · exact (inside inF).elim
  · dsimp only
    simp only [List.mem_append, List.mem_singleton]
    by_cases named : e.name = n
    · subst named
      rw [Std.HashMap.getElem?_insert_self]
      constructor
      · intro found
        cases Option.some.inj found
        exact ⟨.inr rfl, tagged, rfl⟩
      · rintro ⟨earlier | rfl, fTagged, same⟩
        · exact (renamed f earlier fTagged same).elim
        · rfl
    · rw [Std.HashMap.getElem?_insert, if_neg (by simpa using named), records.entities n f]
      constructor
      · rintro ⟨member, rest⟩
        exact ⟨.inl member, rest⟩
      · rintro ⟨earlier | rfl, fTagged, same⟩
        · exact ⟨earlier, fTagged, same⟩
        · exact (named same).elim
  · dsimp only
    rw [records.noOps n]
    simp [tagged]
  · dsimp only
    rw [claimAll_size _ _ _ (namesFor_nodup e.name) free, records.size, namesFor_length,
      List.filter_append, List.filter_singleton, tagged]
    simp only [cond_true, List.length_append, List.length_singleton]
    omega

theorem Records.add {c' : Catalog} (records : Records es c) (added : c.add e = .ok c') :
    Records (es ++ [e]) c' := by
  rcases add_ok added with ⟨untagged, rfl⟩ | ⟨tagged, free, rfl⟩
  · exact records.add_untagged untagged
  · exact records.add_tagged tagged free

end Add

theorem ofEntities_records {es : List Entity} {c : Catalog} (built : ofEntities es = .ok c) :
    Records es c := by
  induction es using List.reverseRecOn generalizing c with
  | nil =>
    cases built
    exact records_empty
  | append_singleton es e ih =>
    rw [ofEntities_append_single] at built
    cases before : ofEntities es with
    | error err =>
      rw [before] at built
      cases built
    | ok c₀ =>
      rw [before] at built
      exact (ih before).add built

theorem ofEntities_ok_of_apart {es : List Entity} (apart : NamesApart es) :
    ∃ c, ofEntities es = .ok c := by
  induction es using List.reverseRecOn with
  | nil => exact ⟨{}, rfl⟩
  | append_singleton es e ih =>
    obtain ⟨earlier, fresh⟩ := namesApart_append_single.mp apart
    obtain ⟨c, built⟩ := ih earlier
    rw [ofEntities_append_single_of_ok e built]
    cases tagged : e.hasReplacements with
    | false => exact ⟨_, add_untagged tagged⟩
    | true =>
      have free := (ofEntities_records built).free_iff.mpr (fresh tagged)
      exact ⟨_, add_tagged tagged free⟩

theorem ofEntities_ok_iff {es : List Entity} : (∃ c, ofEntities es = .ok c) ↔ NamesApart es :=
  ⟨fun ⟨_, built⟩ => (ofEntities_records built).apart, ofEntities_ok_of_apart⟩

section Lookups

variable {es : List Entity} {c : Catalog} (records : Records es c)
include records

theorem Records.entityForAlias_eq_some {a : String} {e : Entity} :
    c.entityForAlias? a = some e ↔ e ∈ es ∧ e.hasReplacements = true ∧ a ∈ namesFor e.name := by
  simp only [entityForAlias?, Option.bind_eq_bind, Option.bind_eq_some_iff]
  constructor
  · rintro ⟨owner, claimed, found⟩
    obtain ⟨f, fMember, fTagged, inF, rfl⟩ := (records.aliases a owner).mp claimed
    obtain ⟨member, tagged, named⟩ := (records.entities f.name e).mp found
    -- the owner's name is one of its own names, so the entity found under it is the owner
    have inE : f.name ∈ namesFor e.name := by
      rw [← named]
      exact mem_namesFor_self e.name
    have same := records.apart.eq member tagged fMember fTagged inE (mem_namesFor_self f.name)
    subst same
    exact ⟨member, tagged, inF⟩
  · rintro ⟨member, tagged, inside⟩
    exact ⟨e.name, (records.aliases a e.name).mpr ⟨e, member, tagged, inside, rfl⟩,
      (records.entities e.name e).mpr ⟨member, tagged, rfl⟩⟩

theorem Records.entity_eq_some {n : String} {e : Entity} :
    c.entity? n = some e ↔ e ∈ es ∧ e.hasReplacements = true ∧ e.name = n :=
  records.entities n e

theorem Records.isNoOp_iff {n : String} :
    c.isNoOp n = true ↔ ∃ e ∈ es, e.hasReplacements = false ∧ e.name = n :=
  records.noOps n

theorem Records.aliasCount_eq : c.aliasCount = 36 * (es.filter (·.hasReplacements)).length :=
  records.size

end Lookups

def Collision (es : List Entity) (err : Error) : Prop :=
  ∃ before e after f a, es = before ++ e :: after ∧ NamesApart before ∧
    e.hasReplacements = true ∧ f ∈ before ∧ f.hasReplacements = true ∧
    a ∈ namesFor e.name ∧ a ∈ namesFor f.name ∧
    (∀ g ∈ before, g.hasReplacements = true → ∀ b ∈ namesFor e.name, b ∈ namesFor g.name → a ≤ b) ∧
    err = .aliasCollision a f.name e.name

theorem Collision.append {es : List Entity} {err : Error} (collision : Collision es err)
    (later : List Entity) : Collision (es ++ later) err := by
  obtain ⟨before, e, after, f, a, rfl, rest⟩ := collision
  exact ⟨before, e, after ++ later, f, a, by simp, rest⟩

theorem Records.add_error {es : List Entity} {c : Catalog} {e : Entity} {err : Error}
    (records : Records es c) (failed : c.add e = .error err) : Collision (es ++ [e]) err := by
  obtain ⟨tagged, pre, a, post, existing, split, free, held, rfl⟩ := Catalog.add_error failed
  obtain ⟨f, member, fTagged, inF, rfl⟩ := (records.aliases a existing).mp held
  have inE : a ∈ namesFor e.name := by simp [split]
  refine ⟨es, e, [], f, a, rfl, records.apart, tagged, member, fTagged, inE, inF,
    fun g gMember gTagged b inE' inG => ?_, rfl⟩
  -- the names are claimed in increasing order and all before the failing one were free
  have taken := (records.aliases b g.name).mpr ⟨g, gMember, gTagged, inG, rfl⟩
  have sorted := namesFor_sorted e.name
  rw [split] at inE' sorted
  rcases List.mem_append.mp inE' with early | late
  · rw [free b early] at taken
    cases taken
  · rcases List.mem_cons.mp late with rfl | after
    · exact le_refl b
    · exact le_of_lt (List.rel_of_pairwise_cons (List.pairwise_append.mp sorted).2.1 after)

theorem ofEntities_collision {es : List Entity} {err : Error} (failed : ofEntities es = .error err) :
    Collision es err := by
  induction es using List.reverseRecOn with
  | nil => cases failed
  | append_singleton es e ih =>
    rw [ofEntities_append_single] at failed
    cases before : ofEntities es with
    | error err' =>
      rw [before] at failed
      cases failed
      exact (ih before).append [e]
    | ok c =>
      rw [before] at failed
      exact (ofEntities_records before).add_error failed

theorem Collision.unique {es : List Entity} {err err' : Error} (first : Collision es err)
    (second : Collision es err') : err = err' := by
  obtain ⟨before, e, after, f, a, split, apart, tagged, member, fTagged, inE, inF, least, rfl⟩ :=
    first
  obtain ⟨before', e', after', f', a', split', apart', tagged', member', fTagged', inE', inF',
    least', rfl⟩ := second
  have meets := not_namesApart_of_meets tagged member fTagged inE inF
  have meets' := not_namesApart_of_meets tagged' member' fTagged' inE' inF'
  have place : before = before' ∧ e = e' := by
    rcases List.append_eq_append_iff.mp (split.symm.trans split') with
      ⟨rest, longer, tail⟩ | ⟨rest, longer, tail⟩
    · rcases List.cons_eq_append_iff.mp tail with ⟨rfl, same⟩ | ⟨rest', rfl, -⟩
      · cases same
        exact ⟨by simpa using longer.symm, rfl⟩
      · rw [longer, List.append_cons] at apart'
        exact (meets apart'.of_append).elim
    · rcases List.cons_eq_append_iff.mp tail with ⟨rfl, same⟩ | ⟨rest', rfl, -⟩
      · cases same
        exact ⟨by simpa using longer, rfl⟩
      · rw [longer, List.append_cons] at apart
        exact (meets' apart.of_append).elim
  obtain ⟨rfl, rfl⟩ := place
  have sameName : a = a' := le_antisymm (least f' member' fTagged' a' inE' inF')
    (least' f member fTagged a inE inF)
  subst sameName
  have sameOwner : f = f' := apart.eq member fTagged member' fTagged' inF inF'
  subst sameOwner
  rfl

theorem exists_error_of_not_namesApart {es : List Entity} (clash : ¬ NamesApart es) :
    ∃ err, ofEntities es = .error err := by
  cases built : ofEntities es with
  | error err => exact ⟨err, rfl⟩
  | ok c => exact (clash (ofEntities_records built).apart).elim

theorem Collision.not_namesApart {es : List Entity} {err : Error} (collision : Collision es err) :
    ¬ NamesApart es := by
  obtain ⟨before, e, after, f, a, rfl, -, tagged, member, fTagged, inE, inF, -, -⟩ := collision
  intro apart
  rw [List.append_cons] at apart
  exact not_namesApart_of_meets tagged member fTagged inE inF apart.of_append

theorem ofEntities_error_iff {es : List Entity} {err : Error} :
    ofEntities es = .error err ↔ Collision es err := by
  refine ⟨ofEntities_collision, fun collision => ?_⟩
  obtain ⟨err', failed⟩ := exists_error_of_not_namesApart collision.not_namesApart
  rw [failed, (ofEntities_collision failed).unique collision]

theorem Records.sameLookups {es es' : List Entity} {c c' : Catalog} (records : Records es c)
    (records' : Records es' c') (perm : es'.Perm es) : c'.SameLookups c where
  isNoOp n := by
    rw [Bool.eq_iff_iff, records'.isNoOp_iff, records.isNoOp_iff]
    simp only [perm.mem_iff]
  entityForAlias a := Option.ext fun e => by
    rw [records'.entityForAlias_eq_some, records.entityForAlias_eq_some, perm.mem_iff]
  entity n := Option.ext fun e => by
    rw [records'.entity_eq_some, records.entity_eq_some, perm.mem_iff]

/-- Building a catalog. It succeeds exactly when the names emitted for the tagged entities are
pairwise apart, so two tagged entities of one name never build. A built catalog resolves an
alias to the tagged entity that emits it, a name to the tagged entity of that name, and holds
the untagged names as no-ops and 36 names for each tagged entity; reordering the entities
changes neither whether the build succeeds nor any classification or rewrite made with the
catalog. A build fails exactly with the first collision in list order. -/
theorem ofEntities_characterized (es : List Entity) :
    ((∃ c, ofEntities es = .ok c) ↔ NamesApart es) ∧
    (∀ e f, [e, f].Sublist es → e.hasReplacements = true → f.hasReplacements = true →
      e.name = f.name → ∃ err, ofEntities es = .error err) ∧
    (∀ c, ofEntities es = .ok c →
      (∀ a e, c.entityForAlias? a = some e ↔
        e ∈ es ∧ e.hasReplacements = true ∧ a ∈ namesFor e.name) ∧
      (∀ n e, c.entity? n = some e ↔ e ∈ es ∧ e.hasReplacements = true ∧ e.name = n) ∧
      (∀ n, c.isNoOp n = true ↔ ∃ e ∈ es, e.hasReplacements = false ∧ e.name = n) ∧
      c.aliasCount = 36 * (es.filter (·.hasReplacements)).length) ∧
    (∀ es', es'.Perm es →
      ((∃ c', ofEntities es' = .ok c') ↔ ∃ c, ofEntities es = .ok c) ∧
      ∀ c c', ofEntities es = .ok c → ofEntities es' = .ok c' →
        (∀ a isObject, classify c' a isObject = classify c a isObject) ∧
        (∀ parseModule source,
          retypeSource parseModule source c' = retypeSource parseModule source c) ∧
        ∀ parseModule w, retypeWriter parseModule w c' = retypeWriter parseModule w c) ∧
    (∀ err, ofEntities es = .error err ↔ Collision es err) := by
  refine ⟨ofEntities_ok_iff, fun e f ordered eTagged fTagged same =>
    exists_error_of_not_namesApart (not_namesApart_of_same_name ordered eTagged fTagged same),
    fun c built => ?_, fun es' perm => ⟨?_, fun c c' built built' => ?_⟩,
    fun _ => ofEntities_error_iff⟩
  · have records := ofEntities_records built
    exact ⟨fun _ _ => records.entityForAlias_eq_some, fun _ _ => records.entity_eq_some,
      fun _ => records.isNoOp_iff, records.aliasCount_eq⟩
  · rw [ofEntities_ok_iff, ofEntities_ok_iff]
    exact NamesApart.perm perm
  · have same := (ofEntities_records built).sameLookups (ofEntities_records built') perm
    exact ⟨same.classify, same.retypeSource, same.retypeWriter⟩

end TypedJson.Catalog
