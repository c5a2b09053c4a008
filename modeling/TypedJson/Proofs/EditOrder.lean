import TypedJson.Proofs.Apply
/-!
# The order of edits

`Patch.apply` gives the same answer for any order of the same edits, repeats included
(`Patch.apply_eq_of_perm`): the same text, or a refusal naming the same ranges.

Sorting keeps edits of one range in the order they were scheduled, and collapsing repeats only
drops an edit equal to the one before it, so the list `apply` checks depends on that order.
What it reports does not. The ranges of the sorted list are the same for any order
(`spans_mergeSort`); the first edit out of bounds is found by its range alone; and the pair the
overlap check reports is read off the sorted ranges and the set of ranges that two different
edits have (`firstOverlap_dedup_spans`). A patch that passes both checks holds each of its
edits once, sorted by start, whatever order it came in (`ordered_eq_of_perm`).
-/
namespace TypedJson

namespace Patch

def RangeLE (x y : Nat × Nat) : Prop := x.1 < y.1 ∨ (x.1 = y.1 ∧ x.2 ≤ y.2)

theorem byRange_iff {a b : Edit} : Edit.byRange a b = true ↔ RangeLE a.span b.span := by
  simp [Edit.byRange, RangeLE, Edit.span]

theorem spans_mergeSort {l₁ l₂ : List Edit} (perm : l₁.Perm l₂) :
    (l₁.mergeSort Edit.byRange).map Edit.span = (l₂.mergeSort Edit.byRange).map Edit.span := by
  apply List.Perm.eq_of_pairwise (fun x y _ _ xy yx => ?_)
  · exact List.pairwise_map.mpr ((sorted_mergeSort l₁).imp byRange_iff.mp)
  · exact List.pairwise_map.mpr ((sorted_mergeSort l₂).imp byRange_iff.mp)
  · exact (((List.mergeSort_perm l₁ _).trans perm).trans (List.mergeSort_perm l₂ _).symm).map _
  · unfold RangeLE at xy yx
    exact Prod.ext (by omega) (by omega)

theorem inBounds_span {source : String} {a b : Edit} (same : a.span = b.span) :
    Edit.inBounds source a = Edit.inBounds source b := by
  simp only [TypedJson.Edit.span, Prod.mk.injEq] at same
  simp [Edit.inBounds, same.1, same.2]

theorem find?_span {P : Edit → Bool} (onRange : ∀ a b, a.span = b.span → P a = P b) :
    ∀ {l₁ l₂ : List Edit}, l₁.map Edit.span = l₂.map Edit.span →
      (l₁.find? P).map Edit.span = (l₂.find? P).map Edit.span
  | [], [], _ => rfl
  | [], _ :: _, same => by cases same
  | _ :: _, [], same => by cases same
  | a :: l₁, b :: l₂, same => by
    simp only [List.map_cons, List.cons.injEq] at same
    rw [List.find?_cons, List.find?_cons, onRange a b same.1]
    split
    · simp [same.1]
    · exact find?_span onRange same.2

def sharedIn (l : List Edit) (range : Nat × Nat) : Bool :=
  decide (∃ a ∈ l, ∃ b ∈ l, a ≠ b ∧ a.span = range ∧ b.span = range)

def firstClash (shared : Nat × Nat → Bool) :
    List (Nat × Nat) → Option ((Nat × Nat) × (Nat × Nat))
  | x :: y :: rest =>
    if x = y then if shared x then some (x, x) else firstClash shared (y :: rest)
    else if y.1 < x.2 ∨ (x.1 = y.1 ∧ x.1 = x.2) then some (x, y)
    else firstClash shared (y :: rest)
  | _ => none

theorem firstClash_congr {shared shared' : Nat × Nat → Bool} :
    ∀ {ranges : List (Nat × Nat)}, (∀ x ∈ ranges, shared x = shared' x) →
      firstClash shared ranges = firstClash shared' ranges
  | [], _ => rfl
  | [_], _ => rfl
  | x :: y :: rest, agree => by
    have later := @firstClash_congr shared shared' (y :: rest)
      fun z member => agree z (List.mem_cons_of_mem x member)
    simp only [firstClash, agree x (List.mem_cons_self ..), later]

theorem sharedIn_cons_of_mem {a : Edit} {l : List Edit} (member : a ∈ l) :
    sharedIn (a :: l) = sharedIn l := by
  have same : ∀ x, x = a ∨ x ∈ l ↔ x ∈ l := fun x => ⟨fun h => h.elim (· ▸ member) id, Or.inr⟩
  funext range
  simp only [sharedIn, List.mem_cons, same]

theorem sharedIn_cons_of_ne {a : Edit} {l : List Edit} {range : Nat × Nat}
    (other : range ≠ a.span) : sharedIn (a :: l) range = sharedIn l range := by
  simp only [sharedIn]
  apply decide_eq_decide.mpr
  constructor
  · rintro ⟨x, xMember, y, yMember, different, xRange, yRange⟩
    rcases List.mem_cons.mp xMember with xFirst | xMember
    · exact absurd (xFirst ▸ xRange).symm other
    rcases List.mem_cons.mp yMember with yFirst | yMember
    · exact absurd (yFirst ▸ yRange).symm other
    exact ⟨x, xMember, y, yMember, different, xRange, yRange⟩
  · rintro ⟨x, xMember, y, yMember, different, xRange, yRange⟩
    exact ⟨x, List.mem_cons_of_mem a xMember, y, List.mem_cons_of_mem a yMember, different,
      xRange, yRange⟩

theorem head_span {a : Edit} {rest : List Edit}
    (sorted : (a :: rest).Pairwise (fun a b => Edit.byRange a b = true)) {z : Edit}
    (member : z ∈ rest) (same : z.span = a.span) :
    ∃ c tail, rest = c :: tail ∧ c.span = a.span := by
  cases rest with
  | nil => cases member
  | cons c tail =>
    refine ⟨c, tail, rfl, ?_⟩
    have first := byRange_iff.mp (List.rel_of_pairwise_cons sorted (List.mem_cons_self ..))
    have second : RangeLE c.span z.span := by
      rcases List.mem_cons.mp member with rfl | later
      · exact Or.inr ⟨rfl, le_refl _⟩
      · exact byRange_iff.mp (List.rel_of_pairwise_cons sorted.of_cons later)
    rw [same] at second
    unfold RangeLE at first second
    exact Prod.ext (by omega) (by omega)

theorem firstOverlap_dedup_spans : ∀ {l : List Edit},
    l.Pairwise (fun a b => Edit.byRange a b = true) → (∀ e ∈ l, e.start ≤ e.stop) →
    (firstOverlap (dedup l)).map (fun pair => (pair.1.span, pair.2.span)) =
      firstClash (sharedIn l) (l.map Edit.span)
  | [], _, _ => rfl
  | [_], _, _ => rfl
  | a :: b :: rest, sorted, ordered => by
    have later := firstOverlap_dedup_spans sorted.of_cons
      fun e member => ordered e (List.mem_cons_of_mem a member)
    by_cases same : a = b
    · subst same
      have collapse : dedup (a :: a :: rest) = dedup (a :: rest) := by simp [dedup]
      rw [collapse, later, sharedIn_cons_of_mem (List.mem_cons_self ..)]
      simp only [List.map_cons, firstClash, if_true]
      split
      · next shared =>
        -- two different edits have `a`'s range, so one of them follows it
        obtain ⟨x, xMember, y, yMember, different, xRange, yRange⟩ := of_decide_eq_true shared
        obtain ⟨z, zMember, zRange⟩ : ∃ z ∈ rest, z.span = a.span := by
          rcases List.mem_cons.mp xMember with xFirst | xLater
          · rcases List.mem_cons.mp yMember with yFirst | yLater
            · exact absurd (xFirst.trans yFirst.symm) different
            · exact ⟨y, yLater, yRange⟩
          · exact ⟨x, xLater, xRange⟩
        obtain ⟨c, tail, rfl, cRange⟩ := head_span sorted.of_cons zMember zRange
        simp only [List.map_cons, firstClash, cRange, if_true, shared]
      · rfl
    · obtain ⟨tail, split⟩ := dedup_cons b rest
      have collapse : dedup (a :: b :: rest) = a :: b :: tail := by simp [dedup, same, split]
      have aOrdered := ordered a (List.mem_cons_self ..)
      have order := byRange_iff.mp (List.rel_of_pairwise_cons sorted (List.mem_cons_self ..))
      rw [collapse]
      by_cases sameRange : a.span = b.span
      · -- two different edits of one range always fail the check
        have shared : sharedIn (a :: b :: rest) b.span = true :=
          decide_eq_true ⟨a, List.mem_cons_self .., b,
            List.mem_cons_of_mem a (List.mem_cons_self ..), same, sameRange, rfl⟩
        have check : (b.start < a.stop || (a.start == b.start && a.start == a.stop)) = true := by
          simp only [TypedJson.Edit.span, Prod.mk.injEq] at sameRange
          simp only [Bool.or_eq_true, decide_eq_true_eq, Bool.and_eq_true, beq_iff_eq]
          omega
        simp only [firstOverlap, check, if_true, Option.map_some, List.map_cons, firstClash,
          sameRange, shared]
      · have spanCheck : (b.span.1 < a.span.2 ∨ (a.span.1 = b.span.1 ∧ a.span.1 = a.span.2)) ↔
            (b.start < a.stop ∨ (a.start = b.start ∧ a.start = a.stop)) := Iff.rfl
        simp only [List.map_cons, firstClash, sameRange, if_false, spanCheck]
        by_cases check : b.start < a.stop ∨ (a.start = b.start ∧ a.start = a.stop)
        · have fails : (b.start < a.stop || (a.start == b.start && a.start == a.stop)) = true := by
            simpa only [Bool.or_eq_true, decide_eq_true_eq, Bool.and_eq_true, beq_iff_eq]
              using check
          simp only [firstOverlap, fails, if_true, check, Option.map_some]
        · have passes : (b.start < a.stop || (a.start == b.start && a.start == a.stop)) = false := by
            simp only [Bool.or_eq_false_iff, decide_eq_false_iff_not, Bool.and_eq_false_iff,
              beq_eq_false_iff_ne]
            omega
          -- the ranges after `a`'s differ from it, so `a` shares none of them
          simp only [firstOverlap, passes, check, if_false, Bool.false_eq_true]
          rw [← split, later, List.map_cons]
          apply firstClash_congr
          intro x member
          refine (sharedIn_cons_of_ne fun xRange => sameRange ?_).symm
          rcases List.mem_cons.mp member with rfl | later
          · exact xRange.symm
          · obtain ⟨z, zMember, rfl⟩ := List.mem_map.mp later
            have bz := byRange_iff.mp (List.rel_of_pairwise_cons sorted.of_cons zMember)
            rw [xRange] at bz
            unfold RangeLE at order bz
            exact Prod.ext (by omega) (by omega)

theorem ordered_eq_of_perm {p q : Patch} (perm : p.edits.Perm q.edits)
    (pOrdered : ∀ e ∈ p.edits, e.start ≤ e.stop) (qOrdered : ∀ e ∈ q.edits, e.start ≤ e.stop)
    (pPasses : firstOverlap p.ordered = none) (qPasses : firstOverlap q.ordered = none) :
    p.ordered = q.ordered := by
  have pAfter := (separated_of_firstOverlap_none
    (fun e member => pOrdered e (mem_ordered.mp member)) pPasses).imp (·.2)
  have qAfter := (separated_of_firstOverlap_none
    (fun e member => qOrdered e (mem_ordered.mp member)) qPasses).imp (·.2)
  have distinct : ∀ {l : List Edit}, l.Pairwise (fun a b => a.start < b.start) → l.Nodup :=
    fun after => after.imp fun before same => by subst same; omega
  refine List.Perm.eq_of_pairwise (fun a b _ _ ab ba => by omega) pAfter qAfter ?_
  exact (List.perm_ext_iff_of_nodup (distinct pAfter) (distinct qAfter)).mpr fun e => by
    rw [mem_ordered, mem_ordered, perm.mem_iff]

theorem outOfBounds_span_eq {p q : Patch} (perm : p.edits.Perm q.edits) (source : String) :
    (p.ordered.find? (!Edit.inBounds source ·)).map Edit.span =
      (q.ordered.find? (!Edit.inBounds source ·)).map Edit.span := by
  have outside := @find?_span (!Edit.inBounds source ·)
    (fun a b same => congrArg (!·) (inBounds_span same)) _ _ (spans_mergeSort perm)
  rwa [← find?_dedup _ (p.edits.mergeSort _), ← find?_dedup _ (q.edits.mergeSort _),
    ← ordered_eq, ← ordered_eq] at outside

theorem overlap_spans_eq {p q : Patch} (perm : p.edits.Perm q.edits) {source : String}
    (pInside : ∀ e ∈ p.edits, Edit.inBounds source e = true)
    (qInside : ∀ e ∈ q.edits, Edit.inBounds source e = true) :
    (firstOverlap p.ordered).map (fun pair => (pair.1.span, pair.2.span)) =
      (firstOverlap q.ordered).map (fun pair => (pair.1.span, pair.2.span)) := by
  have shared : sharedIn (p.edits.mergeSort Edit.byRange) =
      sharedIn (q.edits.mergeSort Edit.byRange) := by
    funext range
    simp only [sharedIn, (List.mergeSort_perm p.edits _).mem_iff,
      (List.mergeSort_perm q.edits _).mem_iff, perm.mem_iff]
  have ordered : ∀ {r : Patch}, (∀ e ∈ r.edits, Edit.inBounds source e = true) →
      ∀ e ∈ r.edits.mergeSort Edit.byRange, e.start ≤ e.stop := fun inside e member =>
    (Edit.inBounds_iff.mp (inside e (List.mem_mergeSort.mp member))).1
  rw [ordered_eq, ordered_eq, firstOverlap_dedup_spans (sorted_mergeSort _) (ordered pInside),
    firstOverlap_dedup_spans (sorted_mergeSort _) (ordered qInside), spans_mergeSort perm, shared]

/-- The order of a patch's edits does not matter: patches whose edits are permutations of each
other, repeats included, give the same text or refuse with the same ranges. -/
theorem apply_eq_of_perm {p q : Patch} (perm : p.edits.Perm q.edits) (source : String) :
    p.apply source = q.apply source := by
  have outside := outOfBounds_span_eq perm source
  cases pFound : p.ordered.find? (!Edit.inBounds source ·) with
  | some e =>
    cases qFound : q.ordered.find? (!Edit.inBounds source ·) with
    | some e' =>
      rw [pFound, qFound] at outside
      simp only [Option.map_some, Option.some.injEq, TypedJson.Edit.span, Prod.mk.injEq] at outside
      simp only [apply, pFound, qFound, outside]
    | none =>
      rw [pFound, qFound] at outside
      cases outside
  | none =>
    cases qFound : q.ordered.find? (!Edit.inBounds source ·) with
    | some e' =>
      rw [pFound, qFound] at outside
      cases outside
    | none =>
      have pInside := inBounds_of_find?_eq_none pFound
      have qInside := inBounds_of_find?_eq_none qFound
      have reported := overlap_spans_eq perm pInside qInside
      rw [apply_of_inBounds pInside, apply_of_inBounds qInside]
      cases pOverlap : firstOverlap p.ordered with
      | some pair =>
        cases qOverlap : firstOverlap q.ordered with
        | some pair' =>
          rw [pOverlap, qOverlap] at reported
          simp only [Option.map_some, Option.some.injEq, Prod.mk.injEq, TypedJson.Edit.span]
            at reported
          simp only [reported]
        | none =>
          rw [pOverlap, qOverlap] at reported
          cases reported
      | none =>
        cases qOverlap : firstOverlap q.ordered with
        | some pair' =>
          rw [pOverlap, qOverlap] at reported
          cases reported
        | none =>
          -- both pass the check, and then they line up their edits the same way
          rw [ordered_eq_of_perm perm (fun e member => (Edit.inBounds_iff.mp (pInside e member)).1)
            (fun e member => (Edit.inBounds_iff.mp (qInside e member)).1) pOverlap qOverlap]

theorem apply_eq_of_perm_repeats :
    ([⟨0, 1, "x"⟩, ⟨0, 1, "y"⟩, ⟨0, 1, "x"⟩] : List Edit).Perm
        [⟨0, 1, "x"⟩, ⟨0, 1, "x"⟩, ⟨0, 1, "y"⟩] ∧
      ({ edits := [⟨0, 1, "x"⟩, ⟨0, 1, "y"⟩, ⟨0, 1, "x"⟩] } : Patch).apply "ab" =
        ({ edits := [⟨0, 1, "x"⟩, ⟨0, 1, "x"⟩, ⟨0, 1, "y"⟩] } : Patch).apply "ab" :=
  ⟨by decide, apply_eq_of_perm (by decide) "ab"⟩

end Patch

end TypedJson
