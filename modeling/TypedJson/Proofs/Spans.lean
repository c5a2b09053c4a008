import TypedJson.Declaration
/-!
# Well-formed syntax trees

The parser's contract about spans: every node lies in the source and starts and ends between
characters, and its children lie inside it, in source order, none overlapping the next. The
views over a module read nodes that lie inside the node they start from, in the same order.
-/
namespace TypedJson.Syntax

mutual

def Node.wellFormed (source : String) : Node → Bool
  | ⟨_, _, start, stop, children⟩ =>
    stop ≤ source.utf8ByteSize && String.Pos.Raw.isValid source ⟨start⟩ &&
      String.Pos.Raw.isValid source ⟨stop⟩ && Node.childrenWellFormed source start stop children

def Node.childrenWellFormed (source : String) (lo hi : Nat) : List Node → Bool
  | [] => lo ≤ hi
  | c :: cs => lo ≤ c.start && c.wellFormed source && Node.childrenWellFormed source c.stop hi cs

end

/-- The tree the parser gives for a source has well-formed spans. -/
def Tree.WellFormed (t : Tree) (source : String) : Prop := t.root.wellFormed source = true

instance (t : Tree) (source : String) : Decidable (t.WellFormed source) :=
  inferInstanceAs (Decidable (_ = true))

def Ordered {α : Type} (span : α → Option (Nat × Nat)) : Nat → Nat → List α → Prop
  | lo, hi, [] => lo ≤ hi
  | lo, hi, x :: xs =>
    match span x with
    | none => Ordered span lo hi xs
    | some (a, b) => lo ≤ a ∧ a ≤ b ∧ Ordered span b hi xs

def Node.span (n : Node) : Option (Nat × Nat) := some (n.start, n.stop)

namespace Ordered

variable {α : Type} {span : α → Option (Nat × Nat)}

theorem le {lo hi : Nat} {xs : List α} (ordered : Ordered span lo hi xs) : lo ≤ hi := by
  induction xs generalizing lo with
  | nil => exact ordered
  | cons x xs ih =>
    unfold Ordered at ordered
    split at ordered
    · exact ih ordered
    · exact Nat.le_trans ordered.1 (Nat.le_trans ordered.2.1 (ih ordered.2.2))

theorem of_le {lo' lo hi : Nat} {xs : List α} (below : lo' ≤ lo)
    (ordered : Ordered span lo hi xs) : Ordered span lo' hi xs := by
  cases xs with
  | nil => exact Nat.le_trans below ordered
  | cons x xs =>
    unfold Ordered at ordered ⊢
    split
    · next none => rw [none] at ordered; exact of_le below ordered
    · next a b some =>
      rw [some] at ordered
      exact ⟨Nat.le_trans below ordered.1, ordered.2⟩

theorem append {lo mid hi : Nat} {xs ys : List α} (first : Ordered span lo mid xs)
    (second : Ordered span mid hi ys) : Ordered span lo hi (xs ++ ys) := by
  induction xs generalizing lo with
  | nil => exact of_le first second
  | cons x xs ih =>
    unfold Ordered at first
    simp only [List.cons_append, Ordered]
    split
    · next none => rw [none] at first; exact ih first
    · next a b some =>
      rw [some] at first
      exact ⟨first.1, first.2.1, ih first.2.2⟩

theorem mem {lo hi : Nat} {xs : List α} {x : α} {a b : Nat} (ordered : Ordered span lo hi xs)
    (member : x ∈ xs) (spanned : span x = some (a, b)) : lo ≤ a ∧ a ≤ b ∧ b ≤ hi := by
  induction xs generalizing lo with
  | nil => cases member
  | cons y ys ih =>
    unfold Ordered at ordered
    rcases List.mem_cons.mp member with rfl | member
    · rw [spanned] at ordered
      exact ⟨ordered.1, ordered.2.1, ordered.2.2.le⟩
    · split at ordered
      · exact ih ordered member
      · obtain ⟨below, _, rest⟩ := ordered
        obtain ⟨start, ordered, stop⟩ := ih rest member
        exact ⟨by omega, ordered, stop⟩

theorem apart {lo hi : Nat} {xs : List α} {x y : α} {a b c d : Nat}
    (ordered : Ordered span lo hi xs) (xMember : x ∈ xs) (yMember : y ∈ xs) (different : x ≠ y)
    (xSpan : span x = some (a, b)) (ySpan : span y = some (c, d)) : b ≤ c ∨ d ≤ a := by
  induction xs generalizing lo with
  | nil => cases xMember
  | cons z zs ih =>
    unfold Ordered at ordered
    split at ordered
    · next none =>
      have xTail : x ∈ zs := by
        rcases List.mem_cons.mp xMember with rfl | h
        · rw [xSpan] at none; cases none
        · exact h
      have yTail : y ∈ zs := by
        rcases List.mem_cons.mp yMember with rfl | h
        · rw [ySpan] at none; cases none
        · exact h
      exact ih ordered xTail yTail
    · next e f some =>
      obtain ⟨_, _, rest⟩ := ordered
      rcases List.mem_cons.mp xMember with rfl | xTail <;>
        rcases List.mem_cons.mp yMember with rfl | yTail
      · exact absurd rfl different
      · rw [xSpan] at some
        cases some
        exact .inl (mem rest yTail ySpan).1
      · rw [ySpan] at some
        cases some
        exact .inr (mem rest xTail xSpan).1
      · exact ih rest xTail yTail

theorem pairwise {lo hi : Nat} {xs : List α} (ordered : Ordered span lo hi xs) :
    xs.Pairwise fun x y => ∀ a b c d, span x = some (a, b) → span y = some (c, d) → b ≤ c := by
  induction xs generalizing lo with
  | nil => exact .nil
  | cons x xs ih =>
    unfold Ordered at ordered
    split at ordered
    · next none =>
      refine .cons (fun y _ a b c d spanned _ => ?_) (ih ordered)
      rw [none] at spanned
      cases spanned
    · next a b some =>
      obtain ⟨_, _, rest⟩ := ordered
      refine .cons (fun y member a' b' c d spanned ySpan => ?_) (ih rest)
      rw [some] at spanned
      cases spanned
      exact (mem rest member ySpan).1

theorem filterMap {β : Type} {span' : β → Option (Nat × Nat)} {f : α → Option β}
    {lo hi : Nat} {xs : List α}
    (inner : ∀ x ∈ xs, ∀ y, f x = some y → ∀ a' b', span' y = some (a', b') →
      ∃ a b, span x = some (a, b) ∧ a ≤ a' ∧ a' ≤ b' ∧ b' ≤ b)
    (ordered : Ordered span lo hi xs) : Ordered span' lo hi (xs.filterMap f) := by
  induction xs generalizing lo with
  | nil => exact ordered
  | cons x xs ih =>
    have tail : ∀ z ∈ xs, ∀ y, f z = some y → ∀ a' b', span' y = some (a', b') →
        ∃ a b, span z = some (a, b) ∧ a ≤ a' ∧ a' ≤ b' ∧ b' ≤ b :=
      fun z member => inner z (List.mem_cons_of_mem x member)
    unfold Ordered at ordered
    cases fx : f x with
    | none =>
      rw [List.filterMap_cons_none fx]
      split at ordered
      · exact ih tail ordered
      · exact of_le (Nat.le_trans ordered.1 ordered.2.1) (ih tail ordered.2.2)
    | some y =>
      rw [List.filterMap_cons_some fx]
      cases sy : span' y with
      | none =>
        simp only [Ordered, sy]
        split at ordered
        · exact ih tail ordered
        · exact of_le (Nat.le_trans ordered.1 ordered.2.1) (ih tail ordered.2.2)
      | some ab =>
        obtain ⟨a', b'⟩ := ab
        obtain ⟨a, b, sx, inside⟩ := inner x (List.mem_cons_self ..) y fx a' b' sy
        rw [sx] at ordered
        simp only [Ordered, sy]
        exact ⟨by omega, inside.2.1, of_le inside.2.2 (ih tail ordered.2.2)⟩

theorem filter {p : α → Bool} {lo hi : Nat} {xs : List α} (ordered : Ordered span lo hi xs) :
    Ordered span lo hi (xs.filter p) := by
  rw [← List.filterMap_eq_filter]
  apply filterMap _ ordered
  intro x member y keep a' b' spanned
  simp only [Option.guard] at keep
  split at keep
  · cases keep
    exact ⟨a', b', spanned, Nat.le_refl _, (mem ordered member spanned).2.1, Nat.le_refl _⟩
  · cases keep

end Ordered

namespace Node

variable {source : String}

mutual

theorem start_le_stop : ∀ {n : Node}, n.wellFormed source = true → n.start ≤ n.stop
  | ⟨_, _, _, _, _⟩, wf => by
    simp only [wellFormed, Bool.and_eq_true] at wf
    exact lo_le_hi wf.2

theorem lo_le_hi : ∀ {lo hi : Nat} {cs : List Node},
    childrenWellFormed source lo hi cs = true → lo ≤ hi
  | _, _, [], wf => by simpa [childrenWellFormed] using wf
  | _, _, _ :: _, wf => by
    simp only [childrenWellFormed, Bool.and_eq_true, decide_eq_true_eq] at wf
    have inside := start_le_stop wf.1.2
    have rest := lo_le_hi wf.2
    omega

end

theorem childrenWellFormed_iff {lo hi : Nat} {cs : List Node} :
    childrenWellFormed source lo hi cs = true ↔
      Ordered Node.span lo hi cs ∧ ∀ c ∈ cs, c.wellFormed source = true := by
  induction cs generalizing lo with
  | nil => simp [childrenWellFormed, Ordered]
  | cons c cs ih =>
    simp only [childrenWellFormed, Bool.and_eq_true, decide_eq_true_eq, ih, Ordered, span,
      List.mem_cons, forall_eq_or_imp]
    constructor
    · rintro ⟨⟨below, wf⟩, rest, children⟩
      exact ⟨⟨below, start_le_stop wf, rest⟩, wf, children⟩
    · rintro ⟨⟨below, _, rest⟩, wf, children⟩
      exact ⟨⟨below, wf⟩, rest, children⟩

theorem wellFormed_iff {n : Node} : n.wellFormed source = true ↔
    n.stop ≤ source.utf8ByteSize ∧ String.Pos.Raw.isValid source ⟨n.start⟩ = true ∧
      String.Pos.Raw.isValid source ⟨n.stop⟩ = true ∧
      Ordered Node.span n.start n.stop n.children ∧
      ∀ c ∈ n.children, c.wellFormed source = true := by
  obtain ⟨kind, role, start, stop, children⟩ := n
  simp only [wellFormed, Bool.and_eq_true, decide_eq_true_eq, childrenWellFormed_iff, and_assoc]

theorem child_wellFormed {n c : Node} (wf : n.wellFormed source = true) (child : c ∈ n.children) :
    c.wellFormed source = true :=
  (wellFormed_iff.mp wf).2.2.2.2 c child

theorem child_inside {n c : Node} (wf : n.wellFormed source = true) (child : c ∈ n.children) :
    n.start ≤ c.start ∧ c.start ≤ c.stop ∧ c.stop ≤ n.stop :=
  Ordered.mem (wellFormed_iff.mp wf).2.2.2.1 child rfl

theorem field_mem {n c : Node} {r : Role} (found : n.field? r = some c) : c ∈ n.children :=
  List.mem_of_find?_eq_some found

theorem firstChild_mem {n c : Node} (found : n.firstChild? = some c) : c ∈ n.children :=
  List.mem_of_find?_eq_some found

end Node

end TypedJson.Syntax

namespace TypedJson

open Syntax

variable {source : String}

mutual

theorem nestedObjects_ordered : ∀ {n : Node}, n.wellFormed source = true →
    Ordered Node.span n.start n.stop (nestedObjects n) ∧
      ∀ o ∈ nestedObjects n, o.wellFormed source = true ∧ o.kind = .objectType
  | ⟨kind, role, start, stop, children⟩, wf => by
    have fits := Node.start_le_stop wf
    simp only [nestedObjects]
    split
    · next isObject =>
      refine ⟨⟨Nat.le_refl _, fits, Nat.le_refl _⟩, ?_⟩
      intro o member
      rw [List.mem_singleton] at member
      subst o
      exact ⟨wf, by simpa using isObject⟩
    · simp only [Node.wellFormed, Bool.and_eq_true] at wf
      exact nestedObjectsList_ordered wf.2

theorem nestedObjectsList_ordered : ∀ {lo hi : Nat} {cs : List Node},
    Node.childrenWellFormed source lo hi cs = true →
      Ordered Node.span lo hi (nestedObjectsList cs) ∧
        ∀ o ∈ nestedObjectsList cs, o.wellFormed source = true ∧ o.kind = .objectType
  | _, _, [], wf => by
    simp only [Node.childrenWellFormed, decide_eq_true_eq] at wf
    exact ⟨wf, by simp [nestedObjectsList]⟩
  | _, _, c :: cs, wf => by
    simp only [Node.childrenWellFormed, Bool.and_eq_true, decide_eq_true_eq] at wf
    obtain ⟨⟨below, cWf⟩, rest⟩ := wf
    obtain ⟨inC, objectsC⟩ := nestedObjects_ordered cWf
    obtain ⟨inRest, objectsRest⟩ := nestedObjectsList_ordered rest
    refine ⟨(Ordered.of_le below inC).append inRest, ?_⟩
    intro o member
    rcases List.mem_append.mp member with member | member
    · exact objectsC o member
    · exact objectsRest o member

end

def Property.span (p : Property) : Option (Nat × Nat) := p.type?.bind Node.span

theorem Property.ofNode_type {n : Node} {p : Property} {t : Node} (made : Property.ofNode n source = some p)
    (typed : p.type? = some t) : ∃ typeField, n.field? .type = some typeField ∧
      typeField.firstChild? = some t := by
  simp only [Property.ofNode, Option.bind_eq_bind, Option.bind_eq_some_iff, Option.pure_def,
    Option.some.injEq] at made
  obtain ⟨name, _, rfl⟩ := made
  exact Option.bind_eq_some_iff.mp typed

theorem Property.type_inside {n : Node} {p : Property} {t : Node} (wf : n.wellFormed source = true)
    (made : Property.ofNode n source = some p) (typed : p.type? = some t) :
    t.wellFormed source = true ∧ n.start ≤ t.start ∧ t.start ≤ t.stop ∧ t.stop ≤ n.stop := by
  obtain ⟨typeField, field, first⟩ := Property.ofNode_type made typed
  have typeFieldChild := Node.field_mem field
  have typeFieldWf := Node.child_wellFormed wf typeFieldChild
  have outer := Node.child_inside wf typeFieldChild
  have tChild := Node.firstChild_mem first
  have inner := Node.child_inside typeFieldWf tChild
  exact ⟨Node.child_wellFormed typeFieldWf tChild, by omega, inner.2.1, by omega⟩

theorem objectProperties_ordered {obj : Node} (wf : obj.wellFormed source = true) :
    Ordered Property.span obj.start obj.stop (objectProperties obj source) ∧
      ∀ p ∈ objectProperties obj source, ∀ t, p.type? = some t → t.wellFormed source = true := by
  have children := (Node.wellFormed_iff.mp wf).2.2.2
  constructor
  · apply Ordered.filterMap _ (Ordered.filter children.1)
    intro n member p made a' b' spanned
    have nWf := children.2 n (List.mem_filter.mp member).1
    simp only [Property.span, Option.bind_eq_some_iff, Node.span, Option.some.injEq,
      Prod.mk.injEq] at spanned
    obtain ⟨t, typed, rfl, rfl⟩ := spanned
    have inside := Property.type_inside nWf made typed
    exact ⟨n.start, n.stop, rfl, inside.2.1, inside.2.2.1, inside.2.2.2⟩
  · intro p member t typed
    obtain ⟨n, nMember, made⟩ := List.mem_filterMap.mp member
    exact (Property.type_inside (children.2 n (List.mem_filter.mp nMember).1) made typed).1

theorem objectProperty_mem {obj : Node} {name : String} {p : Property}
    (found : objectProperty? obj name source = some p) :
    p ∈ objectProperties obj source ∧ p.name = name := by
  have member := List.mem_of_find?_eq_some found
  have named := List.find?_some found
  exact ⟨member, by simpa using named⟩

end TypedJson
