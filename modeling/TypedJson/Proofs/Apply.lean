import Mathlib.Data.List.Chain
import Mathlib.Data.List.Pairwise
import TypedJson.Proofs.Splice
/-!
# Which patches apply

`Patch.apply` refuses a patch when an edit leaves the text or splits a character; otherwise
when two different edits clash, that is share a byte or start at one offset with one of them
an insertion there; otherwise it gives the text with the different edits spliced in one at a
time, from the last one back to the first, each at the offsets it was made for
(`Patch.apply_outcomes`).

The check behind this looks only at edits side by side once they are sorted and repeats are
collapsed, and tests the insertion rule on the first of two edits with one start. An insertion
at the start of a replacement therefore clashes with it while one at its end does not
(`Patch.apply_insertion_at_start_refused`).
-/
namespace TypedJson

open String (utf8Len)

def Edit.span (e : Edit) : Nat × Nat := (e.start, e.stop)

def Edit.Clash (a b : Edit) : Prop :=
  (a.start < b.stop ∧ b.start < a.stop) ∨
    (a.start = b.start ∧ (a.start = a.stop ∨ b.start = b.stop))

instance (a b : Edit) : Decidable (a.Clash b) := inferInstanceAs (Decidable (_ ∨ _))

theorem Edit.Clash.symm {a b : Edit} (clash : a.Clash b) : b.Clash a := by
  unfold Edit.Clash at *
  omega

def Edit.spliceInto (e : Edit) (t : String) : String :=
  String.Pos.Raw.extract t ⟨0⟩ ⟨e.start⟩ ++ e.text ++
    String.Pos.Raw.extract t ⟨e.stop⟩ ⟨t.utf8ByteSize⟩

namespace Text

theorem extract_zero {s : String} {pre rest : List Char} (split : s.toList = pre ++ rest) :
    String.Pos.Raw.extract s ⟨0⟩ ⟨utf8Len pre⟩ = String.ofList pre := by
  simpa using @extract_split s [] pre rest (by simpa using split)

theorem extract_after (pre : List Char) (rest : String) :
    String.Pos.Raw.extract (String.ofList pre ++ rest) ⟨utf8Len pre⟩
      ⟨(String.ofList pre ++ rest).utf8ByteSize⟩ = rest := by
  have whole : (String.ofList pre ++ rest).toList = pre ++ rest.toList ++ [] := by simp
  simpa [String.utf8ByteSize_append, String.utf8ByteSize_ofList] using extract_split whole

theorem extract_whole (s : String) : String.Pos.Raw.extract s ⟨0⟩ ⟨s.utf8ByteSize⟩ = s := by
  simpa using @extract_zero s s.toList [] (by simp)

end Text

open Text in
theorem Edit.spliceInto_prefix {source rest : String} {e : Edit}
    (startValid : String.Pos.Raw.isValid source ⟨e.start⟩ = true)
    (stopValid : String.Pos.Raw.isValid source ⟨e.stop⟩ = true) (order : e.start ≤ e.stop) :
    e.spliceInto (String.Pos.Raw.extract source ⟨0⟩ ⟨e.stop⟩ ++ rest) =
      String.Pos.Raw.extract source ⟨0⟩ ⟨e.start⟩ ++ e.text ++ rest := by
  obtain ⟨pre, after, split, preLen⟩ := exists_split_of_valid startValid
  obtain ⟨upTo, tail, split', upToLen⟩ := exists_split_of_valid stopValid
  obtain ⟨mid, rfl⟩ := prefix_of_utf8Len_le ⟨after, split.symm⟩ ⟨tail, split'.symm⟩
    (by omega)
  have head : String.Pos.Raw.extract source ⟨0⟩ ⟨e.stop⟩ = String.ofList (pre ++ mid) := by
    rw [← upToLen]
    exact extract_zero split'
  have whole : (String.ofList (pre ++ mid) ++ rest).toList = pre ++ (mid ++ rest.toList) := by
    simp
  rw [head, Edit.spliceInto, ← preLen, extract_zero whole, extract_zero split, ← upToLen,
    extract_after]

namespace Patch

open Text

theorem Edit.inBounds_eq_false_iff {source : String} {e : Edit} :
    Edit.inBounds source e = false ↔ e.stop < e.start ∨ source.utf8ByteSize < e.stop ∨
      String.Pos.Raw.isValid source ⟨e.start⟩ = false ∨
      String.Pos.Raw.isValid source ⟨e.stop⟩ = false := by
  simp only [Edit.inBounds, Bool.and_eq_false_iff, decide_eq_false_iff_not, Nat.not_le]
  tauto

theorem Edit.inBounds_iff {source : String} {e : Edit} :
    Edit.inBounds source e = true ↔ e.start ≤ e.stop ∧ e.stop ≤ source.utf8ByteSize ∧
      String.Pos.Raw.isValid source ⟨e.start⟩ = true ∧
      String.Pos.Raw.isValid source ⟨e.stop⟩ = true := by
  simp [Edit.inBounds, and_assoc]

theorem mem_dedup {x : Edit} {l : List Edit} : x ∈ dedup l ↔ x ∈ l := by
  fun_induction dedup l with
  | case1 a b rest same ih => simp [ih, beq_iff_eq.mp same]
  | case2 a b rest _ ih => simp [ih]
  | case3 => rfl

theorem find?_dedup (P : Edit → Bool) (l : List Edit) : (dedup l).find? P = l.find? P := by
  fun_induction dedup l with
  | case1 a b rest same ih =>
    rw [ih, beq_iff_eq.mp same, List.find?_cons]
    split <;> simp_all
  | case2 a b rest _ ih => simp [List.find?_cons, ih]
  | case3 => rfl

theorem dedup_sublist (l : List Edit) : (dedup l).Sublist l := by
  fun_induction dedup l with
  | case1 a b rest _ ih => exact ih.cons a
  | case2 a b rest _ ih => exact ih.cons_cons a
  | case3 => exact List.Sublist.refl _

theorem dedup_cons (a : Edit) (l : List Edit) : ∃ tail, dedup (a :: l) = a :: tail := by
  induction l generalizing a with
  | nil => exact ⟨[], rfl⟩
  | cons b rest ih =>
    by_cases same : a = b
    · obtain ⟨tail, eq⟩ := ih b
      exact ⟨tail, by simp [dedup, same, eq]⟩
    · exact ⟨dedup (b :: rest), by simp [dedup, same]⟩

theorem dedup_isChain (l : List Edit) : (dedup l).IsChain (· ≠ ·) := by
  fun_induction dedup l with
  | case1 a b rest _ ih => exact ih
  | case2 a b rest different ih =>
    obtain ⟨tail, eq⟩ := dedup_cons b rest
    rw [eq] at ih ⊢
    exact List.IsChain.cons_cons (by simpa using different) ih
  | case3 es notPair =>
    cases es with
    | nil => exact .nil
    | cons a rest =>
      cases rest with
      | nil => exact .singleton a
      | cons b rest => exact absurd rfl (notPair a b rest)

theorem mem_ordered {p : Patch} {e : Edit} : e ∈ p.ordered ↔ e ∈ p.edits := by
  rw [ordered_eq, mem_dedup, (List.mergeSort_perm p.edits Edit.byRange).mem_iff]

theorem sorted_mergeSort (l : List Edit) :
    (l.mergeSort Edit.byRange).Pairwise (fun a b => Edit.byRange a b = true) := by
  apply List.pairwise_mergeSort
  · intro a b c ab bc
    simp only [Edit.byRange, Bool.or_eq_true, decide_eq_true_eq, Bool.and_eq_true,
      beq_iff_eq] at ab bc ⊢
    omega
  · intro a b
    simp only [Edit.byRange, Bool.or_eq_true, decide_eq_true_eq, Bool.and_eq_true, beq_iff_eq]
    omega

theorem firstOverlap_eq_some {D : List Edit} {a b : Edit} (found : firstOverlap D = some (a, b)) :
    ∃ pre post, D = pre ++ a :: b :: post ∧
      (b.start < a.stop ∨ (a.start = b.start ∧ a.start = a.stop)) := by
  fun_induction firstOverlap D with
  | case1 x y rest overlaps =>
    simp only [Option.some.injEq, Prod.mk.injEq] at found
    obtain ⟨rfl, rfl⟩ := found
    simp only [Bool.or_eq_true, decide_eq_true_eq, Bool.and_eq_true, beq_iff_eq] at overlaps
    exact ⟨[], rest, rfl, overlaps⟩
  | case2 x y rest _ ih =>
    obtain ⟨pre, post, eq, check⟩ := ih found
    exact ⟨x :: pre, post, by simp [eq], check⟩
  | case3 => cases found

theorem separated_of_firstOverlap_none {D : List Edit} (ordered : ∀ e ∈ D, e.start ≤ e.stop)
    (passes : firstOverlap D = none) :
    D.Pairwise (fun a b => a.stop ≤ b.start ∧ a.start < b.start) := by
  fun_induction firstOverlap D with
  | case1 => cases passes
  | case2 x y rest next ih =>
    have rest := ih (fun e member => ordered e (List.mem_cons_of_mem x member)) passes
    have xOrdered := ordered x (List.mem_cons_self ..)
    have yOrdered := ordered y (List.mem_cons_of_mem x (List.mem_cons_self ..))
    simp only [Bool.or_eq_true, decide_eq_true_eq, Bool.and_eq_true, beq_iff_eq, not_or,
      not_and] at next
    -- an insertion that shares its start with the next edit would have failed the check
    have follows : x.stop ≤ y.start ∧ x.start < y.start := by omega
    refine List.Pairwise.cons (fun z member => ?_) rest
    rcases List.mem_cons.mp member with rfl | later
    · exact follows
    · have := List.rel_of_pairwise_cons rest later
      omega
  | case3 es notPair =>
    cases es with
    | nil => exact .nil
    | cons a rest =>
      cases rest with
      | nil => exact List.pairwise_singleton _ a
      | cons b rest => exact absurd rfl (notPair a b rest)

theorem check_iff_clash {a b : Edit} (order : Edit.byRange a b = true)
    (aOrdered : a.start ≤ a.stop) (bOrdered : b.start ≤ b.stop) :
    (b.start < a.stop ∨ (a.start = b.start ∧ a.start = a.stop)) ↔ a.Clash b := by
  simp only [Edit.byRange, Bool.or_eq_true, decide_eq_true_eq, Bool.and_eq_true,
    beq_iff_eq] at order
  unfold TypedJson.Edit.Clash
  omega

theorem firstOverlap_dedup_eq_none_iff {l : List Edit}
    (sorted : l.Pairwise (fun a b => Edit.byRange a b = true))
    (ordered : ∀ e ∈ l, e.start ≤ e.stop) :
    firstOverlap (dedup l) = none ↔ ∀ a ∈ l, ∀ b ∈ l, a ≠ b → ¬ a.Clash b := by
  constructor
  · intro passes a aMember b bMember different clash
    have separated := separated_of_firstOverlap_none
      (fun e member => ordered e (mem_dedup.mp member)) passes
    have either : (dedup l).Pairwise fun x y => (x.stop ≤ y.start ∧ x.start < y.start) ∨
        (y.stop ≤ x.start ∧ y.start < x.start) := separated.imp Or.inl
    have : Std.Symm fun x y : Edit => (x.stop ≤ y.start ∧ x.start < y.start) ∨
        (y.stop ≤ x.start ∧ y.start < x.start) := ⟨fun _ _ apart => apart.symm⟩
    have apart := either.forall (mem_dedup.mpr aMember) (mem_dedup.mpr bMember) different
    have aOrdered := ordered a aMember
    have bOrdered := ordered b bMember
    unfold TypedJson.Edit.Clash at clash
    omega
  · intro noClash
    cases found : firstOverlap (dedup l) with
    | none => rfl
    | some pair =>
      obtain ⟨a, b⟩ := pair
      obtain ⟨pre, post, split, check⟩ := firstOverlap_eq_some found
      -- the reported pair stands side by side in the collapsed list, so it is two edits
      have chain := dedup_isChain l
      have collapsedSorted := sorted.sublist (dedup_sublist l)
      rw [split] at chain collapsedSorted
      have different : a ≠ b := (List.isChain_append_cons_cons.mp chain).2.1
      have order : Edit.byRange a b = true :=
        List.rel_of_pairwise_cons (List.pairwise_append.mp collapsedSorted).2.1
          (List.mem_cons_self ..)
      have aMember : a ∈ l := mem_dedup.mp (by rw [split]; simp)
      have bMember : b ∈ l := mem_dedup.mp (by rw [split]; simp)
      exact absurd ((check_iff_clash order (ordered a aMember) (ordered b bMember)).mp check)
        (noClash a aMember b bMember different)

theorem foldr_spliceInto {source : String} : ∀ {es : List Edit} {cursor : Nat},
    es.Pairwise (fun a b => a.stop ≤ b.start) →
    (∀ e ∈ es, cursor ≤ e.start ∧ Edit.inBounds source e = true) →
    String.Pos.Raw.isValid source ⟨cursor⟩ = true → cursor ≤ source.utf8ByteSize →
    es.foldr TypedJson.Edit.spliceInto source =
      String.Pos.Raw.extract source ⟨0⟩ ⟨cursor⟩ ++ splice source cursor es
  | [], cursor, _, _, cursorValid, inside => by
    rw [List.foldr_nil, splice, ← extract_append (String.Pos.Raw.isValid_eq_true_iff.mpr
      String.Pos.Raw.isValid_zero) cursorValid (isValid_end source) (Nat.zero_le _) inside,
      extract_whole]
  | e :: rest, cursor, sorted, bounds, cursorValid, _ => by
    obtain ⟨after, inBounds⟩ := bounds e (List.mem_cons_self ..)
    obtain ⟨order, stopIn, startValid, stopValid⟩ := Edit.inBounds_iff.mp inBounds
    have restBounds : ∀ f ∈ rest, e.stop ≤ f.start ∧ Edit.inBounds source f = true :=
      fun f member => ⟨List.rel_of_pairwise_cons sorted member,
        (bounds f (List.mem_cons_of_mem e member)).2⟩
    rw [List.foldr_cons, foldr_spliceInto sorted.of_cons restBounds stopValid stopIn,
      TypedJson.Edit.spliceInto_prefix startValid stopValid order, splice,
      extract_append (String.Pos.Raw.isValid_eq_true_iff.mpr String.Pos.Raw.isValid_zero)
        cursorValid startValid (Nat.zero_le _) after]
    simp only [String.append_assoc]

theorem apply_of_inBounds {p : Patch} {source : String}
    (inside : ∀ e ∈ p.edits, Edit.inBounds source e = true) :
    p.apply source = match firstOverlap p.ordered with
      | some (a, b) => .error (.overlappingEdits (a.start, a.stop) (b.start, b.stop))
      | none => .ok (splice source 0 p.ordered) := by
  have none : p.ordered.find? (!Edit.inBounds source ·) = none := by
    rw [List.find?_eq_none]
    intro e member
    simp [inside e (mem_ordered.mp member)]
  simp only [apply, none]
  rfl

theorem inBounds_of_find?_eq_none {p : Patch} {source : String}
    (found : p.ordered.find? (!Edit.inBounds source ·) = none) :
    ∀ e ∈ p.edits, Edit.inBounds source e = true := fun e member => by
  simpa using List.find?_eq_none.mp found e (mem_ordered.mpr member)

theorem apply_outOfBounds_iff (p : Patch) (source : String) :
    (∃ start stop len, p.apply source = .error (.editOutOfBounds start stop len)) ↔
      ∃ e ∈ p.edits, e.stop < e.start ∨ source.utf8ByteSize < e.stop ∨
        String.Pos.Raw.isValid source ⟨e.start⟩ = false ∨
        String.Pos.Raw.isValid source ⟨e.stop⟩ = false := by
  simp only [← Edit.inBounds_eq_false_iff]
  constructor
  · rintro ⟨start, stop, len, refused⟩
    cases found : p.ordered.find? (!Edit.inBounds source ·) with
    | some e =>
      exact ⟨e, mem_ordered.mp (List.mem_of_find?_eq_some found),
        by simpa using List.find?_some found⟩
    | none =>
      -- every edit is then in bounds, and what is refused then is an overlap
      rw [apply_of_inBounds (inBounds_of_find?_eq_none found)] at refused
      split at refused <;> cases refused
  · rintro ⟨e, member, outside⟩
    cases found : p.ordered.find? (!Edit.inBounds source ·) with
    | some first => exact ⟨_, _, _, by simp [apply, found]; rfl⟩
    | none =>
      have := List.find?_eq_none.mp found e (mem_ordered.mpr member)
      simp [outside] at this

theorem firstOverlap_ordered_eq_none_iff {p : Patch} {source : String}
    (inside : ∀ e ∈ p.edits, Edit.inBounds source e = true) :
    firstOverlap p.ordered = none ↔ ∀ a ∈ p.edits, ∀ b ∈ p.edits, a ≠ b → ¬ a.Clash b := by
  have perm := List.mergeSort_perm p.edits Edit.byRange
  have ordered : ∀ e ∈ p.edits.mergeSort Edit.byRange, e.start ≤ e.stop := fun e member =>
    (Edit.inBounds_iff.mp (inside e (perm.mem_iff.mp member))).1
  rw [ordered_eq, firstOverlap_dedup_eq_none_iff (sorted_mergeSort p.edits) ordered]
  simp only [perm.mem_iff]

theorem apply_overlapping_iff {p : Patch} {source : String}
    (inside : ∀ e ∈ p.edits, Edit.inBounds source e = true) :
    (∃ first second, p.apply source = .error (.overlappingEdits first second)) ↔
      ∃ a ∈ p.edits, ∃ b ∈ p.edits, a ≠ b ∧ a.Clash b := by
  have check := firstOverlap_ordered_eq_none_iff inside
  rw [apply_of_inBounds inside]
  constructor
  · rintro ⟨first, second, refused⟩
    cases found : firstOverlap p.ordered with
    | none =>
      simp only [found] at refused
      cases refused
    | some pair =>
      by_contra noClash
      have passes := check.mpr fun a aMember b bMember different clash =>
        noClash ⟨a, aMember, b, bMember, different, clash⟩
      rw [passes] at found
      cases found
  · rintro ⟨a, aMember, b, bMember, different, clash⟩
    cases found : firstOverlap p.ordered with
    | none => exact absurd clash (check.mp found a aMember b bMember different)
    | some pair => exact ⟨_, _, rfl⟩

theorem apply_ok_of_apart {p : Patch} {source : String}
    (inside : ∀ e ∈ p.edits, Edit.inBounds source e = true)
    (noClash : ∀ a ∈ p.edits, ∀ b ∈ p.edits, a ≠ b → ¬ a.Clash b) :
    ∃ later : List Edit, (∀ e, e ∈ later ↔ e ∈ p.edits) ∧
      later.Pairwise (fun a b => b.start < a.start) ∧
      p.apply source = .ok (later.foldl (fun t e => e.spliceInto t) source) := by
  have passes := (firstOverlap_ordered_eq_none_iff inside).mpr noClash
  have separated := separated_of_firstOverlap_none
    (fun e member => (Edit.inBounds_iff.mp (inside e (mem_ordered.mp member))).1) passes
  -- the edits are spliced in from the last one back
  refine ⟨p.ordered.reverse, fun e => by rw [List.mem_reverse, mem_ordered],
    List.pairwise_reverse.mpr (separated.imp (·.2)), ?_⟩
  rw [apply_of_inBounds inside, passes, List.foldl_reverse]
  have fromStart := foldr_spliceInto (separated.imp (·.1))
    (fun e member => ⟨Nat.zero_le _, inside e (mem_ordered.mp member)⟩)
    (String.Pos.Raw.isValid_eq_true_iff.mpr String.Pos.Raw.isValid_zero) (Nat.zero_le _)
  rw [show String.Pos.Raw.extract source ⟨0⟩ ⟨0⟩ = "" by simp [String.Pos.Raw.extract],
    String.empty_append] at fromStart
  exact congrArg Except.ok fromStart.symm

/-- What `apply` does with a patch: it refuses one with an edit that leaves the text or splits
a character; otherwise one with two different edits that clash; otherwise it splices the
different edits in one at a time, from the last one back to the first, each at its own
offsets. -/
theorem apply_outcomes (p : Patch) (source : String) :
    ((∃ start stop len, p.apply source = .error (.editOutOfBounds start stop len)) ↔
      ∃ e ∈ p.edits, e.stop < e.start ∨ source.utf8ByteSize < e.stop ∨
        String.Pos.Raw.isValid source ⟨e.start⟩ = false ∨
        String.Pos.Raw.isValid source ⟨e.stop⟩ = false) ∧
    ((∀ e ∈ p.edits, Edit.inBounds source e = true) →
      ((∃ first second, p.apply source = .error (.overlappingEdits first second)) ↔
        ∃ a ∈ p.edits, ∃ b ∈ p.edits, a ≠ b ∧ a.Clash b)) ∧
    ((∀ e ∈ p.edits, Edit.inBounds source e = true) →
      (∀ a ∈ p.edits, ∀ b ∈ p.edits, a ≠ b → ¬ a.Clash b) →
      ∃ later : List Edit, (∀ e, e ∈ later ↔ e ∈ p.edits) ∧
        later.Pairwise (fun a b => b.start < a.start) ∧
        p.apply source = .ok (later.foldl (fun t e => e.spliceInto t) source)) :=
  ⟨apply_outOfBounds_iff p source, apply_overlapping_iff, apply_ok_of_apart⟩

/-- An insertion at the start of a replacement clashes with it, one at its end does not. -/
theorem apply_insertion_at_start_refused :
    ({ edits := [⟨0, 0, "x"⟩, ⟨0, 1, "y"⟩] } : Patch).apply "ab" =
      .error (.overlappingEdits (0, 0) (0, 1)) ∧
    ({ edits := [⟨0, 1, "y"⟩, ⟨1, 1, "x"⟩] } : Patch).apply "ab" = .ok "yxb" := by
  have atStart : ([⟨0, 0, "x"⟩, ⟨0, 1, "y"⟩] : List Edit).mergeSort Edit.byRange =
      [⟨0, 0, "x"⟩, ⟨0, 1, "y"⟩] := List.mergeSort_of_pairwise (by decide)
  have atEnd : ([⟨0, 1, "y"⟩, ⟨1, 1, "x"⟩] : List Edit).mergeSort Edit.byRange =
      [⟨0, 1, "y"⟩, ⟨1, 1, "x"⟩] := List.mergeSort_of_pairwise (by decide)
  constructor
  · simp only [apply, ordered_eq, atStart]
    decide
  · simp only [apply, ordered_eq, atEnd]
    decide

end Patch

end TypedJson
