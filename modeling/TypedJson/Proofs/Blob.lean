import Mathlib.Data.String.Basic
import TypedJson.Retype.Blob
import TypedJson.Proofs.Spans
import TypedJson.Proofs.Placement
/-!
# The edits of one field and one object

Retyping a field type replaces the blob references found in it, each by its own edit. The
references are nodes in order inside the type, none empty, so these edits are placed inside
the type. An object's edits are those of its tagged fields in order, and a list wrapper's
those of its `set` and `push` members; both are placed inside the object. Each of these
functions appends to the patch it is given and reads nothing of it.
-/
namespace TypedJson

open Syntax

variable {source : String}

theorem Syntax.Node.text_eq_empty {n : Node} (empty : n.stop ≤ n.start) : n.text source = "" := by
  simp [Node.text, String.Pos.Raw.extract, empty]

theorem Syntax.Node.start_lt_stop_of_blob {n : Node} (blob : Blob.isBlobName (n.text source) = true) :
    n.start < n.stop := by
  apply Nat.lt_of_not_le
  intro empty
  rw [Node.text_eq_empty empty] at blob
  exact absurd blob (by decide)

namespace Blob

def refSpan (r : Node × Option Kind) : Option (Nat × Nat) := r.1.span

mutual

theorem collect_ordered : ∀ {parent : Option Kind} {n : Node}, n.wellFormed source = true →
    Ordered refSpan n.start n.stop (collect source parent n) ∧
      ∀ r ∈ collect source parent n, r.1.wellFormed source = true ∧ r.1.start < r.1.stop
  | parent, ⟨kind, role, start, stop, children⟩, wf => by
    let n : Node := ⟨kind, role, start, stop, children⟩
    have fits := Node.start_le_stop wf
    -- the node itself is the one reference, when it is one
    have single : isBlobName (n.text source) = true ∨
        ((n.field? .name).map fun m => isBlobName (m.text source)).getD false = true →
        Ordered refSpan start stop [(n, parent)] ∧
          ∀ r ∈ [(n, parent)], r.1.wellFormed source = true ∧ r.1.start < r.1.stop := by
      intro blob
      have nonempty : start < stop := by
        rcases blob with blob | blob
        · exact Node.start_lt_stop_of_blob blob
        · cases named : n.field? .name with
          | none => rw [named] at blob; cases blob
          | some m =>
            rw [named] at blob
            have inside := Node.child_inside wf (Node.field_mem named)
            have := Node.start_lt_stop_of_blob (by simpa using blob)
            simp only at inside
            omega
      refine ⟨⟨Nat.le_refl _, fits, Nat.le_refl _⟩, ?_⟩
      intro r member
      rw [List.mem_singleton] at member
      subst r
      exact ⟨wf, nonempty⟩
    have none : Ordered refSpan start stop ([] : List (Node × Option Kind)) ∧
        ∀ r ∈ ([] : List (Node × Option Kind)), r.1.wellFormed source = true ∧ r.1.start < r.1.stop :=
      ⟨fits, by simp⟩
    simp only [collect]
    split
    · split
      · exact single (.inl ‹_›)
      · exact none
    · split
      · split
        · exact single (.inr ‹_›)
        · exact none
      · split
        · simp only [Node.wellFormed, Bool.and_eq_true] at wf
          exact collectList_ordered wf.2
        · exact none

theorem collectList_ordered : ∀ {parent : Kind} {lo hi : Nat} {cs : List Node},
    Node.childrenWellFormed source lo hi cs = true →
      Ordered refSpan lo hi (collectList source parent cs) ∧
        ∀ r ∈ collectList source parent cs, r.1.wellFormed source = true ∧ r.1.start < r.1.stop
  | _, _, _, [], wf => by
    simp only [Node.childrenWellFormed, decide_eq_true_eq] at wf
    exact ⟨wf, by simp [collectList]⟩
  | _, _, _, c :: cs, wf => by
    simp only [Node.childrenWellFormed, Bool.and_eq_true, decide_eq_true_eq] at wf
    obtain ⟨⟨below, cWf⟩, rest⟩ := wf
    obtain ⟨inC, refsC⟩ := collect_ordered cWf
    obtain ⟨inRest, refsRest⟩ := collectList_ordered rest
    refine ⟨(Ordered.of_le below inC).append inRest, ?_⟩
    intro r member
    rcases List.mem_append.mp member with member | member
    · exact refsC r member
    · exact refsRest r member

end

theorem placed_map {α : Type} {lo hi : Nat} {xs : List α} (node : α → Node) (text : α → String)
    (ordered : Ordered (fun x => (node x).span) lo hi xs)
    (fits : ∀ x ∈ xs, (node x).wellFormed source = true ∧ (node x).start < (node x).stop) :
    Placed source lo hi (xs.map fun x => ⟨(node x).start, (node x).stop, text x⟩) := by
  induction xs generalizing lo with
  | nil => exact Placed.nil lo hi
  | cons x xs ih =>
    obtain ⟨start, _, rest⟩ := ordered
    have tail := ih rest fun y member => fits y (List.mem_cons_of_mem x member)
    obtain ⟨wf, nonempty⟩ := fits x (List.mem_cons_self ..)
    have valid := Node.wellFormed_iff.mp wf
    have head : Placed source lo (node x).stop [⟨(node x).start, (node x).stop, text x⟩] := by
      refine ⟨?_, List.pairwise_singleton _ _⟩
      intro e member
      rw [List.mem_singleton] at member
      subst e
      exact ⟨start, nonempty, Nat.le_refl _, valid.2.1, valid.2.2.1⟩
    exact Placed.append head tail (.inl (Nat.le_refl _)) (Nat.le_refl lo) rest.le
      (Nat.le_trans start (Nat.le_of_lt nonempty)) (Nat.le_refl hi)

def typeEdits (ty : Node) (target source : String) : List Edit :=
  if mentionsBlob target && containsWord (ty.text source) target then []
  else (collect source none ty).map fun (blob, parent) => ⟨blob.start, blob.stop, replacement parent target⟩

theorem foldl_replace (patch : Patch) (target : String) (refs : List (Node × Option Kind)) :
    refs.foldl (fun p (blob, parent) => p.replace blob.start blob.stop (replacement parent target))
        patch =
      ⟨patch.edits ++ refs.map fun (blob, parent) => ⟨blob.start, blob.stop, replacement parent target⟩⟩ := by
  induction refs generalizing patch with
  | nil => simp
  | cons r rs ih =>
    rw [List.foldl_cons, ih]
    simp [Patch.replace]

theorem retypeType_eq (ty : Node) (target : String) (patch : Patch) :
    retypeType ty target source patch =
      (⟨patch.edits ++ typeEdits ty target source⟩, (retypeType ty target source {}).2) := by
  unfold retypeType typeEdits
  split
  · simp
  · simp [foldl_replace]

theorem typeEdits_placed {ty : Node} (target : String) (wf : ty.wellFormed source = true) :
    Placed source ty.start ty.stop (typeEdits ty target source) := by
  unfold typeEdits
  split
  · exact Placed.nil _ _
  · obtain ⟨ordered, refs⟩ := @collect_ordered source none ty wf
    exact placed_map (fun r : Node × Option Kind => r.1) (fun r => replacement r.2 target) ordered
      refs

end Blob

theorem Placed.flatMap {α : Type} {span : α → Option (Nat × Nat)} {lo hi : Nat} {xs : List α}
    (ordered : Ordered span lo hi xs) (g : α → List Edit)
    (each : ∀ x ∈ xs, match span x with
      | none => g x = []
      | some (a, c) => Placed source a c (g x)) :
    Placed source lo hi (xs.flatMap g) := by
  induction xs generalizing lo with
  | nil => exact Placed.nil lo hi
  | cons x xs ih =>
    have tail := fun y member => each y (List.mem_cons_of_mem x member)
    have head := each x (List.mem_cons_self ..)
    rw [List.flatMap_cons]
    unfold Ordered at ordered
    split at ordered
    · next none =>
      rw [none] at head
      rw [head, List.nil_append]
      exact ih ordered tail
    · next a c some =>
      rw [some] at head
      obtain ⟨start, fits, rest⟩ := ordered
      exact Placed.append head (ih rest tail) (.inl (Nat.le_refl c)) start rest.le
        (Nat.le_trans start fits) (Nat.le_refl hi)

def fieldEdits (entity : Entity) (source : String) (prop : Property) : List Edit :=
  match entity.replacementFor prop.name, prop.type? with
  | some target, some ty => Blob.typeEdits ty target source
  | _, _ => []

def fieldRetyped (entity : Entity) (source : String) (prop : Property) : Bool :=
  match entity.replacementFor prop.name, prop.type? with
  | some target, some ty => (Blob.retypeType ty target source {}).2
  | _, _ => false

theorem retypeObject_eq (obj : Node) (entity : Entity) (patch : Patch) :
    retypeObject obj entity source patch =
      (⟨patch.edits ++ (objectProperties obj source).flatMap (fieldEdits entity source)⟩,
        (objectProperties obj source).countP (fieldRetyped entity source)) := by
  unfold retypeObject
  -- the fold goes on from any patch and count
  suffices fold : ∀ (props : List Property) (patch : Patch) (n : Nat),
      props.foldl (fun (acc : Patch × Nat) prop =>
        match entity.replacementFor prop.name, prop.type? with
        | some target, some ty =>
          ((Blob.retypeType ty target source acc.1).1,
            if (Blob.retypeType ty target source acc.1).2 then acc.2 + 1 else acc.2)
        | _, _ => (acc.1, acc.2)) (patch, n) =
        (⟨patch.edits ++ props.flatMap (fieldEdits entity source)⟩,
          n + props.countP (fieldRetyped entity source)) by
    have start := fold (objectProperties obj source) patch 0
    rw [Nat.zero_add] at start
    exact start
  intro props
  induction props with
  | nil => simp
  | cons prop props ih =>
    intro patch n
    rw [List.foldl_cons, List.flatMap_cons, List.countP_cons]
    cases named : entity.replacementFor prop.name with
    | none => simp [fieldEdits, fieldRetyped, named, ih]
    | some target =>
      cases typed : prop.type? with
      | none => simp [fieldEdits, fieldRetyped, named, typed, ih]
      | some ty =>
        simp only [fieldEdits, fieldRetyped, named, typed]
        rw [Blob.retypeType_eq, ih]
        by_cases changed : (Blob.retypeType ty target source {}).2 <;>
          simp [changed, Nat.add_assoc, Nat.add_comm]

theorem retypeObject_swap (obj : Node) (entity : Entity) (patch : Patch) :
    (retypeObject obj entity source patch).swap =
      ((objectProperties obj source).countP (fieldRetyped entity source),
        ⟨patch.edits ++ (objectProperties obj source).flatMap (fieldEdits entity source)⟩) := by
  rw [retypeObject_eq]
  rfl

theorem objectEdits_placed {obj : Node} (entity : Entity) (wf : obj.wellFormed source = true) :
    Placed source obj.start obj.stop
      ((objectProperties obj source).flatMap (fieldEdits entity source)) := by
  obtain ⟨ordered, typesWf⟩ := objectProperties_ordered wf
  apply Placed.flatMap ordered
  intro prop member
  cases typed : prop.type? with
  | none => simp [Property.span, fieldEdits, typed]
  | some ty =>
    simp only [Property.span, typed, Option.bind_some, Node.span]
    cases named : entity.replacementFor prop.name with
    | none => simp [fieldEdits, named, Placed.nil]
    | some target =>
      simp only [fieldEdits, named, typed]
      exact Blob.typeEdits_placed target (typesWf prop member ty typed)

def memberEdits (target source : String) (prop : Property) : List Edit :=
  match prop.type? with
  | some ty => Blob.typeEdits ty target source
  | none => []

def memberRetyped (target source : String) (prop : Property) : Bool :=
  match prop.type? with
  | some ty => (Blob.retypeType ty target source {}).2
  | none => false

def listMemberProperties (obj : Node) (source : String) : List Property :=
  (objectProperties obj source).filter (listMembers.contains ·.name)

def wrapperEdits (obj : Node) (field : Field) (source : String) : List Edit :=
  match field.replacement with
  | none => []
  | some target => (listMemberProperties obj source).flatMap (memberEdits target source)

def wrapperRetyped (obj : Node) (field : Field) (source : String) : Nat :=
  match field.replacement with
  | none => 0
  | some target => (listMemberProperties obj source).countP (memberRetyped target source)

theorem retypeListWrapper_eq (obj : Node) (field : Field) (patch : Patch) :
    retypeListWrapper obj field source patch =
      (⟨patch.edits ++ wrapperEdits obj field source⟩, wrapperRetyped obj field source) := by
  unfold retypeListWrapper wrapperEdits wrapperRetyped
  cases field.replacement with
  | none => simp
  | some target =>
    simp only
    suffices fold : ∀ (props : List Property) (patch : Patch) (n : Nat),
        props.foldl (fun (acc : Patch × Nat) prop =>
          match prop.type? with
          | some ty =>
            ((Blob.retypeType ty target source acc.1).1,
              if (Blob.retypeType ty target source acc.1).2 then acc.2 + 1 else acc.2)
          | none => (acc.1, acc.2)) (patch, n) =
          (⟨patch.edits ++ props.flatMap (memberEdits target source)⟩,
            n + props.countP (memberRetyped target source)) by
      have start := fold (listMemberProperties obj source) patch 0
      rw [Nat.zero_add] at start
      exact start
    intro props
    induction props with
    | nil => simp
    | cons prop props ih =>
      intro patch n
      rw [List.foldl_cons, List.flatMap_cons, List.countP_cons]
      cases typed : prop.type? with
      | none => simp [memberEdits, memberRetyped, typed, ih]
      | some ty =>
        simp only [memberEdits, memberRetyped, typed]
        rw [Blob.retypeType_eq, ih]
        by_cases changed : (Blob.retypeType ty target source {}).2 <;>
          simp [changed, Nat.add_assoc, Nat.add_comm]

theorem retypeListWrapper_swap (obj : Node) (field : Field) (patch : Patch) :
    (retypeListWrapper obj field source patch).swap =
      (wrapperRetyped obj field source, ⟨patch.edits ++ wrapperEdits obj field source⟩) := by
  rw [retypeListWrapper_eq]
  rfl

theorem wrapperEdits_placed {obj : Node} (field : Field) (wf : obj.wellFormed source = true) :
    Placed source obj.start obj.stop (wrapperEdits obj field source) := by
  unfold wrapperEdits
  cases field.replacement with
  | none => exact Placed.nil _ _
  | some target =>
    obtain ⟨ordered, typesWf⟩ := objectProperties_ordered wf
    apply Placed.flatMap (Ordered.filter ordered)
    intro prop member
    have inObject := (List.mem_filter.mp member).1
    cases typed : prop.type? with
    | none => simp [Property.span, memberEdits, typed]
    | some ty =>
      simp only [Property.span, typed, Option.bind_some, Node.span, memberEdits]
      exact Blob.typeEdits_placed target (typesWf prop inObject ty typed)

end TypedJson
