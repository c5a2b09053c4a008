import Mathlib.Data.String.Basic
import TypedJson.Proofs.Placement
/-!
# Text a patch leaves alone

Byte offsets between characters split the text's characters, so the text between two such
offsets is the text up to a third one between them followed by the text after it. Splicing
sorted edits into a text therefore keeps, unchanged, every stretch of it that no edit touches.
-/
namespace TypedJson.Text

open String (utf8Len)

theorem exists_split_of_valid {s : String} {p : Nat}
    (valid : String.Pos.Raw.isValid s ⟨p⟩ = true) :
    ∃ pre rest, s.toList = pre ++ rest ∧ utf8Len pre = p := by
  obtain ⟨i, at_⟩ := String.Pos.Raw.isValid_iff_exists_take_toList.mp
    (String.Pos.Raw.isValid_eq_true_iff.mp valid)
  refine ⟨s.toList.take i, s.toList.drop i, (List.take_append_drop i _).symm, ?_⟩
  rw [← String.utf8ByteSize_ofList]
  exact at_.symm

theorem extract_split {s : String} {pre mid rest : List Char}
    (split : s.toList = pre ++ mid ++ rest) :
    String.Pos.Raw.extract s ⟨utf8Len pre⟩ ⟨utf8Len pre + utf8Len mid⟩ = String.ofList mid := by
  rw [← String.ofList_toList (s := s), split]
  exact String.extract_of_valid pre mid rest

theorem prefix_of_utf8Len_le {pre pre' whole : List Char} (first : pre <+: whole)
    (second : pre' <+: whole) (le : utf8Len pre ≤ utf8Len pre') : pre <+: pre' := by
  rcases List.prefix_or_prefix_of_prefix first second with shorter | longer
  · exact shorter
  · obtain ⟨extra, rfl⟩ := longer
    rw [String.utf8Len_append] at le
    have empty : extra = [] := String.utf8Len_eq_zero.mp (by omega)
    simp [empty]

theorem extract_append {s : String} {a b c : Nat}
    (aValid : String.Pos.Raw.isValid s ⟨a⟩ = true) (bValid : String.Pos.Raw.isValid s ⟨b⟩ = true)
    (cValid : String.Pos.Raw.isValid s ⟨c⟩ = true) (ab : a ≤ b) (bc : b ≤ c) :
    String.Pos.Raw.extract s ⟨a⟩ ⟨c⟩ =
      String.Pos.Raw.extract s ⟨a⟩ ⟨b⟩ ++ String.Pos.Raw.extract s ⟨b⟩ ⟨c⟩ := by
  obtain ⟨pa, ra, sa, rfl⟩ := exists_split_of_valid aValid
  obtain ⟨pb, rb, sb, rfl⟩ := exists_split_of_valid bValid
  obtain ⟨pc, rc, sc, rfl⟩ := exists_split_of_valid cValid
  -- the three prefixes of the text extend one another
  obtain ⟨m1, rfl⟩ := prefix_of_utf8Len_le ⟨ra, sa.symm⟩ ⟨rb, sb.symm⟩ ab
  obtain ⟨m2, rfl⟩ := prefix_of_utf8Len_le ⟨rb, sb.symm⟩ ⟨rc, sc.symm⟩ bc
  have whole : s.toList = pa ++ (m1 ++ m2) ++ rc := by simpa [List.append_assoc] using sc
  have left : s.toList = pa ++ m1 ++ (m2 ++ rc) := by simpa [List.append_assoc] using sc
  have outer := extract_split whole
  have inner := extract_split sc
  rw [String.utf8Len_append, ← Nat.add_assoc] at outer
  rw [String.utf8Len_append] at inner
  rw [String.utf8Len_append, String.utf8Len_append, outer, extract_split left, inner,
    String.ofList_append]

theorem isValid_end (s : String) : String.Pos.Raw.isValid s ⟨s.utf8ByteSize⟩ = true :=
  String.Pos.Raw.isValid_eq_true_iff.mpr String.Pos.Raw.isValid_rawEndPos

end TypedJson.Text

namespace TypedJson.Patch

open Text

variable {source : String}

theorem splice_keeps {s t : Nat} (sValid : String.Pos.Raw.isValid source ⟨s⟩ = true)
    (tValid : String.Pos.Raw.isValid source ⟨t⟩ = true) (st : s ≤ t)
    (tEnd : t ≤ source.utf8ByteSize) : ∀ {es : List Edit} {cursor : Nat},
      es.Pairwise (fun a b => a.stop ≤ b.start) →
      (∀ e ∈ es, e.Fits source cursor source.utf8ByteSize) →
      (∀ e ∈ es, e.stop ≤ s ∨ t ≤ e.start) →
      String.Pos.Raw.isValid source ⟨cursor⟩ = true → cursor ≤ s →
      ∃ pre post, splice source cursor es = pre ++ String.Pos.Raw.extract source ⟨s⟩ ⟨t⟩ ++ post
  | [], cursor, _, _, _, cursorValid, before => by
    refine ⟨String.Pos.Raw.extract source ⟨cursor⟩ ⟨s⟩,
      String.Pos.Raw.extract source ⟨t⟩ ⟨source.utf8ByteSize⟩, ?_⟩
    rw [splice, extract_append cursorValid sValid (isValid_end source) before (Nat.le_trans st tEnd),
      extract_append sValid tValid (isValid_end source) st tEnd, String.append_assoc]
  | e :: rest, cursor, sorted, fits, outside, cursorValid, before => by
    obtain ⟨eStart, _, eStop, eStartValid, eStopValid⟩ := fits e (List.mem_cons_self ..)
    rw [splice]
    rcases outside e (List.mem_cons_self ..) with earlier | later
    · -- the edit comes before the stretch: splice the rest from its end
      have restFits : ∀ f ∈ rest, f.Fits source e.stop source.utf8ByteSize := by
        intro f member
        obtain ⟨_, fNonempty, fStop, fValid⟩ := fits f (List.mem_cons_of_mem e member)
        exact ⟨List.rel_of_pairwise_cons sorted member, fNonempty, fStop, fValid⟩
      obtain ⟨pre, post, spliced⟩ := splice_keeps sValid tValid st tEnd sorted.of_cons restFits
        (fun f member => outside f (List.mem_cons_of_mem e member)) eStopValid earlier
      refine ⟨String.Pos.Raw.extract source ⟨cursor⟩ ⟨e.start⟩ ++ e.text ++ pre, post, ?_⟩
      rw [spliced]
      simp only [String.append_assoc]
    · -- the edit comes after the stretch, which the text before the edit holds
      refine ⟨String.Pos.Raw.extract source ⟨cursor⟩ ⟨s⟩,
        String.Pos.Raw.extract source ⟨t⟩ ⟨e.start⟩ ++ e.text ++ splice source e.stop rest, ?_⟩
      rw [extract_append cursorValid sValid eStartValid before (Nat.le_trans st later),
        extract_append sValid tValid eStartValid st later]
      simp only [String.append_assoc]

theorem apply_keeps {p : Patch} {s t : Nat} (placed : Placed source 0 source.utf8ByteSize p.edits)
    (outside : ∀ e ∈ p.edits, e.stop ≤ s ∨ t ≤ e.start)
    (sValid : String.Pos.Raw.isValid source ⟨s⟩ = true)
    (tValid : String.Pos.Raw.isValid source ⟨t⟩ = true) (st : s ≤ t)
    (tEnd : t ≤ source.utf8ByteSize) :
    ∃ pre post, p.apply source = .ok (pre ++ String.Pos.Raw.extract source ⟨s⟩ ⟨t⟩ ++ post) := by
  obtain ⟨sortedPlaced, after⟩ := sorted_placed placed
  have perm := List.mergeSort_perm p.edits Edit.byRange
  obtain ⟨pre, post, spliced⟩ := splice_keeps sValid tValid st tEnd after sortedPlaced.1
    (fun e member => outside e (perm.mem_iff.mp member))
    (String.Pos.Raw.isValid_eq_true_iff.mpr String.Pos.Raw.isValid_zero) (Nat.zero_le s)
  exact ⟨pre, post, by rw [apply_placed placed, spliced]⟩

theorem apply_nil (source : String) : ({} : Patch).apply source = .ok source := by
  have whole := @extract_split source [] source.toList [] (by simp)
  simp only [String.utf8Len_nil, Nat.zero_add, String.utf8Len_toList, String.ofList_toList] at whole
  rw [apply_placed (Placed.nil 0 source.utf8ByteSize)]
  simpa [Patch.splice] using whole

end TypedJson.Patch
