import Mathlib.Data.List.Flatten
import Mathlib.Data.List.Nodup
import Mathlib.Data.List.Perm.Subperm
import TypedJson.Proofs.Spans
/-!
# Subtrees

The subtrees of a node are the node and, in order, the subtrees of its children; every place
of the tree counts once, so two children that are equal trees give their subtrees twice. Nodes
found at different places of a tree have subtrees that together make up a part of the tree's:
the objects nested in a type, the declared types of an object's properties, and the types of
its members with different names. Such a part of a node's strict subtrees holds no node twice
that the tree holds once, and none of its nodes lies inside another of them.
-/
namespace TypedJson

open Syntax
open scoped List

namespace Syntax.Node

mutual

def subtrees : Node → List Node
  | n@⟨_, _, _, _, children⟩ => n :: subtreesList children

def subtreesList : List Node → List Node
  | [] => []
  | c :: cs => c.subtrees ++ subtreesList cs

end

def descendants (n : Node) : List Node := subtreesList n.children

theorem subtrees_eq (n : Node) : n.subtrees = n :: n.descendants := by
  cases n
  rfl

theorem subtreesList_eq_flatMap (cs : List Node) : subtreesList cs = cs.flatMap subtrees := by
  induction cs with
  | nil => rfl
  | cons c cs ih => rw [subtreesList, ih, List.flatMap_cons]

theorem mem_subtrees (n : Node) : n ∈ n.subtrees := by
  rw [subtrees_eq]
  exact List.mem_cons_self ..

theorem descendants_sublist (n : Node) : n.descendants <+ n.subtrees := by
  rw [subtrees_eq]
  exact List.sublist_cons_self ..

theorem subtrees_sublist_subtreesList {c : Node} : ∀ {cs : List Node}, c ∈ cs →
    c.subtrees <+ subtreesList cs
  | d :: ds, member => by
    rw [subtreesList]
    rcases List.mem_cons.mp member with rfl | later
    · exact List.sublist_append_left ..
    · exact (subtrees_sublist_subtreesList later).trans (List.sublist_append_right ..)

theorem subtrees_sublist_descendants {n c : Node} (child : c ∈ n.children) :
    c.subtrees <+ n.descendants :=
  subtrees_sublist_subtreesList child

theorem grandchild_sublist {n c d : Node} (child : c ∈ n.children) (grandchild : d ∈ c.children) :
    d.subtrees <+ n.descendants :=
  (subtrees_sublist_descendants grandchild).trans
    ((descendants_sublist c).trans (subtrees_sublist_descendants child))

end Syntax.Node

open Syntax.Node

mutual

theorem nestedObjects_sublist : ∀ n : Node, (nestedObjects n).flatMap subtrees <+ n.subtrees
  | ⟨kind, role, start, stop, children⟩ => by
    simp only [nestedObjects]
    split
    · simp
    · rw [subtrees_eq]
      exact (nestedObjectsList_sublist children).trans (List.sublist_cons_self ..)

theorem nestedObjectsList_sublist : ∀ cs : List Node,
    (nestedObjectsList cs).flatMap subtrees <+ subtreesList cs
  | [] => by simp [nestedObjectsList, subtreesList]
  | c :: cs => by
    rw [nestedObjectsList, subtreesList, List.flatMap_append]
    exact (nestedObjects_sublist c).append (nestedObjectsList_sublist cs)

end

mutual

theorem nestedObjects_kind : ∀ {n o : Node}, o ∈ nestedObjects n → o.kind = .objectType
  | ⟨kind, role, start, stop, children⟩, o, member => by
    simp only [nestedObjects] at member
    split at member
    · next isObject =>
      rw [List.mem_singleton] at member
      subst member
      simpa using isObject
    · exact nestedObjectsList_kind member

theorem nestedObjectsList_kind : ∀ {cs : List Node} {o : Node}, o ∈ nestedObjectsList cs →
    o.kind = .objectType
  | [], o, member => by simp [nestedObjectsList] at member
  | c :: cs, o, member => by
    rw [nestedObjectsList, List.mem_append] at member
    rcases member with inC | inRest
    · exact nestedObjects_kind inC
    · exact nestedObjectsList_kind inRest

end

def Property.typeSubtrees (p : Property) : List Node := p.type?.toList.flatMap subtrees

variable {source : String}

theorem Property.typeSubtrees_sublist {n : Node} {p : Property} (made : Property.ofNode n source = some p) :
    p.typeSubtrees <+ n.descendants := by
  cases typed : p.type? with
  | none => simp [Property.typeSubtrees, typed]
  | some t =>
    obtain ⟨typeField, field, first⟩ := Property.ofNode_type made typed
    simpa [Property.typeSubtrees, typed] using
      grandchild_sublist (Node.field_mem field) (Node.firstChild_mem first)

theorem objectProperties_sublist (obj : Node) :
    (objectProperties obj source).flatMap Property.typeSubtrees <+ obj.descendants := by
  rw [descendants, subtreesList_eq_flatMap]
  -- each property comes from a child of its own, and keeps its type below it
  suffices typed : ∀ ns : List Node,
      (ns.filterMap (Property.ofNode · source)).flatMap Property.typeSubtrees <+ ns.flatMap subtrees by
    exact (typed _).trans ((List.filter_sublist).flatMap subtrees)
  intro ns
  induction ns with
  | nil => simp
  | cons n ns ih =>
    rw [List.filterMap_cons, List.flatMap_cons]
    cases made : Property.ofNode n source with
    | none => exact ih.trans (List.sublist_append_right ..)
    | some p =>
      rw [List.flatMap_cons]
      exact ((Property.typeSubtrees_sublist made).trans (descendants_sublist n)).append ih

def memberSubtrees (obj : Node) (name source : String) : List Node :=
  ((objectProperty? obj name source).bind (·.type?)).toList.flatMap subtrees

theorem memberSubtrees_of_type {obj t : Node} {name : String}
    (typed : (objectProperty? obj name source).bind (·.type?) = some t) :
    memberSubtrees obj name source = t.subtrees := by
  simp [memberSubtrees, typed]

theorem flatMap_memberSubtrees (obj : Node) (names : List String) :
    names.flatMap (memberSubtrees obj · source) =
      (names.filterMap (objectProperty? obj · source)).flatMap Property.typeSubtrees := by
  induction names with
  | nil => rfl
  | cons name names ih =>
    rw [List.flatMap_cons, List.filterMap_cons, ih]
    cases found : objectProperty? obj name source <;>
      simp [memberSubtrees, Property.typeSubtrees, found]

theorem subperm_flatMap {α β : Type} {l₁ l₂ : List α} (sub : l₁ <+~ l₂) (f : α → List β) :
    l₁.flatMap f <+~ l₂.flatMap f := by
  obtain ⟨l, perm, sublist⟩ := sub
  exact ⟨l.flatMap f, perm.flatMap_right f, sublist.flatMap f⟩

theorem memberSubtrees_subperm (obj : Node) {names : List String} (distinct : names.Nodup) :
    names.flatMap (memberSubtrees obj · source) <+~ obj.descendants := by
  rw [flatMap_memberSubtrees]
  -- the members found are different properties of the object, since their names differ
  have found : (names.filterMap (objectProperty? obj · source)).Nodup := by
    refine distinct.filterMap fun a a' p first second => ?_
    exact (objectProperty_mem first).2.symm.trans (objectProperty_mem second).2
  have among : names.filterMap (objectProperty? obj · source) ⊆ objectProperties obj source := by
    intro p member
    obtain ⟨name, _, named⟩ := List.mem_filterMap.mp member
    exact (objectProperty_mem named).1
  exact (subperm_flatMap (found.subperm among) _).trans (objectProperties_sublist obj).subperm

end TypedJson
