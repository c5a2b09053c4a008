import TypedJson.Edit.Patch
/-!
# Placed edits

Edits that are non-empty, lie in a range of the source between characters and do not overlap
one another. Such edits pass every check of `Patch.apply`: sorting keeps them apart, nothing
is collapsed, every one is in bounds and no two adjacent ones overlap.
-/
namespace TypedJson

def Edit.Apart (e f : Edit) : Prop := e.stop ≤ f.start ∨ f.stop ≤ e.start

def Edit.Fits (source : String) (lo hi : Nat) (e : Edit) : Prop :=
  lo ≤ e.start ∧ e.start < e.stop ∧ e.stop ≤ hi ∧
    String.Pos.Raw.isValid source ⟨e.start⟩ = true ∧ String.Pos.Raw.isValid source ⟨e.stop⟩ = true

/-- Edits that each fit in `[lo, hi]` and pairwise do not overlap. -/
def Placed (source : String) (lo hi : Nat) (es : List Edit) : Prop :=
  (∀ e ∈ es, e.Fits source lo hi) ∧ es.Pairwise Edit.Apart

def Edit.Within (source : String) (span : Option (Nat × Nat)) (e : Edit) : Prop :=
  ∃ a b, span = some (a, b) ∧ e.Fits source a b

instance (e f : Edit) : Decidable (e.Apart f) := inferInstanceAs (Decidable (_ ∨ _))

instance (source : String) (lo hi : Nat) (e : Edit) : Decidable (e.Fits source lo hi) :=
  inferInstanceAs (Decidable (_ ∧ _ ∧ _ ∧ _ ∧ _))

instance (source : String) (lo hi : Nat) (es : List Edit) : Decidable (Placed source lo hi es) :=
  inferInstanceAs (Decidable (_ ∧ _))

theorem Edit.Apart.symm {e f : Edit} (apart : e.Apart f) : f.Apart e := Or.symm apart

theorem Edit.Within.apart {source : String} {e f : Edit} {s t : Option (Nat × Nat)}
    (first : e.Within source s) (second : f.Within source t)
    (separate : ∀ a b c d, s = some (a, b) → t = some (c, d) → b ≤ c ∨ d ≤ a) : e.Apart f := by
  obtain ⟨a, b, eSpan, eStart, _, eStop, _⟩ := first
  obtain ⟨c, d, fSpan, fStart, _, fStop, _⟩ := second
  have := separate a b c d eSpan fSpan
  unfold Edit.Apart
  omega

namespace Placed

variable {source : String}

theorem nil (lo hi : Nat) : Placed source lo hi [] := ⟨by simp, .nil⟩

theorem mono {lo hi lo' hi' : Nat} {es : List Edit} (below : lo' ≤ lo) (above : hi ≤ hi')
    (placed : Placed source lo hi es) : Placed source lo' hi' es := by
  refine ⟨fun e member => ?_, placed.2⟩
  obtain ⟨start, nonempty, stop, valid⟩ := placed.1 e member
  exact ⟨Nat.le_trans below start, nonempty, Nat.le_trans stop above, valid⟩

theorem cross {a b c d : Nat} {es fs : List Edit} (first : Placed source a b es)
    (second : Placed source c d fs) (separate : b ≤ c ∨ d ≤ a) :
    ∀ e ∈ es, ∀ f ∈ fs, e.Apart f := by
  intro e eMember f fMember
  obtain ⟨eStart, eNonempty, eStop, _⟩ := first.1 e eMember
  obtain ⟨fStart, fNonempty, fStop, _⟩ := second.1 f fMember
  unfold Edit.Apart
  omega

theorem append {lo hi a b c d : Nat} {es fs : List Edit} (first : Placed source a b es)
    (second : Placed source c d fs) (separate : b ≤ c ∨ d ≤ a) (aIn : lo ≤ a) (bIn : b ≤ hi)
    (cIn : lo ≤ c) (dIn : d ≤ hi) : Placed source lo hi (es ++ fs) := by
  refine ⟨fun e member => ?_, List.pairwise_append.mpr ⟨first.2, second.2, cross first second separate⟩⟩
  rcases List.mem_append.mp member with member | member
  · exact (mono aIn bIn first).1 e member
  · exact (mono cIn dIn second).1 e member

end Placed

def Edit.byRange (a b : Edit) : Bool :=
  a.start < b.start || (a.start == b.start && a.stop ≤ b.stop)

namespace Patch

variable {source : String}

theorem ordered_eq (p : Patch) : p.ordered = dedup (p.edits.mergeSort Edit.byRange) := rfl

theorem dedup_eq_self {es : List Edit} (distinct : es.Pairwise (· ≠ ·)) : dedup es = es := by
  fun_induction dedup es with
  | case1 a b rest same ih =>
    have := List.rel_of_pairwise_cons distinct (List.mem_cons_self ..)
    exact absurd (by simpa using same) this
  | case2 a b rest _ ih => rw [ih (List.Pairwise.of_cons distinct)]
  | case3 => rfl

theorem firstOverlap_eq_none {es : List Edit} (after : es.Pairwise fun a b => a.stop ≤ b.start)
    (nonempty : ∀ e ∈ es, e.start < e.stop) : firstOverlap es = none := by
  fun_induction firstOverlap es with
  | case1 a b rest overlaps =>
    have later := List.rel_of_pairwise_cons after (List.mem_cons_self ..)
    have aNonempty := nonempty a (List.mem_cons_self ..)
    simp only [Bool.or_eq_true, decide_eq_true_eq, Bool.and_eq_true, beq_iff_eq] at overlaps
    omega
  | case2 a b rest _ ih =>
    exact ih (List.Pairwise.of_cons after) fun e member => nonempty e (List.mem_cons_of_mem a member)
  | case3 => rfl

theorem sorted_placed {lo hi : Nat} {p : Patch} (placed : Placed source lo hi p.edits) :
    Placed source lo hi (p.edits.mergeSort Edit.byRange) ∧
      (p.edits.mergeSort Edit.byRange).Pairwise fun a b => a.stop ≤ b.start := by
  have perm := List.mergeSort_perm p.edits Edit.byRange
  have fits : ∀ e ∈ p.edits.mergeSort Edit.byRange, e.Fits source lo hi :=
    fun e member => placed.1 e (perm.mem_iff.mp member)
  have apart : (p.edits.mergeSort Edit.byRange).Pairwise Edit.Apart :=
    (perm.pairwise_iff Edit.Apart.symm).mpr placed.2
  have sorted : (p.edits.mergeSort Edit.byRange).Pairwise fun a b => Edit.byRange a b = true := by
    apply List.pairwise_mergeSort
    · intro a b c ab bc
      simp only [Edit.byRange, Bool.or_eq_true, decide_eq_true_eq, Bool.and_eq_true,
        beq_iff_eq] at ab bc ⊢
      omega
    · intro a b
      simp only [Edit.byRange, Bool.or_eq_true, decide_eq_true_eq, Bool.and_eq_true, beq_iff_eq]
      omega
  refine ⟨⟨fits, apart⟩, ?_⟩
  refine (sorted.and apart).imp_of_mem fun {a b} aMember bMember both => ?_
  obtain ⟨order, separate⟩ := both
  have aFits := fits a aMember
  have bFits := fits b bMember
  simp only [Edit.byRange, Bool.or_eq_true, decide_eq_true_eq, Bool.and_eq_true, beq_iff_eq] at order
  unfold Edit.Apart at separate
  unfold Edit.Fits at aFits bFits
  omega

theorem apply_placed {p : Patch} (placed : Placed source 0 source.utf8ByteSize p.edits) :
    p.apply source = .ok (splice source 0 (p.edits.mergeSort Edit.byRange)) := by
  obtain ⟨sortedPlaced, after⟩ := sorted_placed placed
  have nonempty : ∀ e ∈ p.edits.mergeSort Edit.byRange, e.start < e.stop :=
    fun e member => (sortedPlaced.1 e member).2.1
  have distinct : (p.edits.mergeSort Edit.byRange).Pairwise (· ≠ ·) := by
    refine after.imp_of_mem fun {a b} aMember _ order same => ?_
    have := nonempty a aMember
    subst same
    omega
  have inBounds : (p.edits.mergeSort Edit.byRange).find? (!Edit.inBounds source ·) = none := by
    rw [List.find?_eq_none]
    intro e member
    obtain ⟨_, nonempty, stop, validStart, validStop⟩ := sortedPlaced.1 e member
    simp only [Edit.inBounds, Bool.and_eq_true, decide_eq_true_eq, Bool.not_eq_true',
      Bool.not_eq_false]
    exact ⟨⟨⟨Nat.le_of_lt nonempty, stop⟩, validStart⟩, validStop⟩
  rw [apply, ordered_eq, dedup_eq_self distinct, inBounds]
  simp only [firstOverlap_eq_none after nonempty]
  rfl

end Patch

end TypedJson
