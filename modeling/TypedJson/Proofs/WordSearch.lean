import TypedJson.Retype.Blob
/-!
# Searching for a word

The word search looks for a needle's bytes in a haystack's with no identifier byte right
before or right after them, but only among the occurrences a left-to-right scan without
overlaps meets: after each match the scan resumes past it. Every occurrence is met or lies
strictly inside a match met before it, and a match it meets is an occurrence. So the search
finds nothing that is not a word, and it finds every word when the needle cannot overlap itself
(no non-empty proper prefix of it is also a suffix), as no blob type name can. A needle that
can overlap itself hides a word inside an earlier match that is no word.
-/
namespace TypedJson.Blob

theorem isPrefix_iff : ∀ {needle hay : List UInt8}, isPrefix needle hay = true ↔ needle <+: hay
  | [], _ => by simp [isPrefix]
  | _ :: _, [] => by simp [isPrefix]
  | n :: ns, h :: hs => by
    simp only [isPrefix, Bool.and_eq_true, beq_iff_eq, isPrefix_iff, List.cons_prefix_cons]

def WordAt (hay needle : List UInt8) (i : Nat) : Prop :=
  needle <+: hay.drop i ∧ (∀ b ∈ (hay.take i).getLast?, isIdentByte b = false) ∧
    ∀ b ∈ (hay.drop (i + needle.length)).head?, isIdentByte b = false

instance (hay needle : List UInt8) (i : Nat) : Decidable (WordAt hay needle i) :=
  inferInstanceAs (Decidable (_ ∧ _ ∧ _))

def Unbordered (needle : List UInt8) : Prop :=
  needle ≠ [] ∧ ∀ k < needle.length, 0 < k → needle.take k ≠ needle.drop (needle.length - k)

instance (needle : List UInt8) : Decidable (Unbordered needle) :=
  inferInstanceAs (Decidable (_ ∧ _))

section Scan

variable {needle : List UInt8}

theorem matchIndices_sound : ∀ {hay : List UInt8} {offset fuel j : Nat},
    j ∈ matchIndices needle hay offset fuel → offset ≤ j ∧ needle <+: hay.drop (j - offset)
  | _, _, 0, _, listed => by simp [matchIndices] at listed
  | [], _, _ + 1, _, listed => by simp [matchIndices] at listed
  | x :: rest, offset, fuel + 1, j, listed => by
    simp only [matchIndices] at listed
    split at listed
    · next found =>
      rcases List.mem_cons.mp listed with rfl | later
      · simpa using isPrefix_iff.mp found
      · -- the scan resumes right after the match
        obtain ⟨after, occurs⟩ := matchIndices_sound later
        refine ⟨by omega, ?_⟩
        rwa [List.drop_drop, show needle.length + (j - (offset + needle.length)) = j - offset by
          omega] at occurs
    · obtain ⟨after, occurs⟩ := matchIndices_sound listed
      refine ⟨by omega, ?_⟩
      rwa [show j - offset = j - (offset + 1) + 1 by omega, List.drop_succ_cons]

theorem matchIndices_covers (nonempty : needle ≠ []) : ∀ {hay : List UInt8} {offset fuel i : Nat},
    hay.length < fuel → needle <+: hay.drop i →
      offset + i ∈ matchIndices needle hay offset fuel ∨
        ∃ j ∈ matchIndices needle hay offset fuel, j < offset + i ∧ offset + i < j + needle.length
  | _, _, 0, _, enough, _ => absurd enough (Nat.not_lt_zero _)
  | [], _, _ + 1, i, _, occurs => by
    have := occurs.length_le
    simp only [List.drop_nil, List.length_nil, Nat.le_zero, List.length_eq_zero_iff] at this
    exact absurd this nonempty
  | x :: rest, offset, fuel + 1, i, enough, occurs => by
    simp only [matchIndices]
    split
    · next found =>
      have long : 0 < needle.length := List.length_pos_iff.mpr nonempty
      by_cases inside : i < needle.length
      · -- the occurrence is this match, or starts inside it
        rcases Nat.eq_zero_or_pos i with rfl | later
        · exact .inl (List.mem_cons_self ..)
        · exact .inr ⟨offset, List.mem_cons_self .., by omega, by omega⟩
      · have shifted : needle <+: ((x :: rest).drop needle.length).drop (i - needle.length) := by
          rwa [List.drop_drop, show needle.length + (i - needle.length) = i by omega]
        have shorter : ((x :: rest).drop needle.length).length < fuel := by
          simp only [List.length_drop, List.length_cons] at enough ⊢
          omega
        rcases matchIndices_covers nonempty shorter shifted with listed | ⟨j, listed, before, within⟩
        · refine .inl (List.mem_cons_of_mem _ ?_)
          rwa [show offset + needle.length + (i - needle.length) = offset + i by omega] at listed
        · exact .inr ⟨j, List.mem_cons_of_mem _ listed, by omega, by omega⟩
    · next missed =>
      -- no match at the first byte, so the occurrence starts later
      obtain ⟨i, rfl⟩ : ∃ k, i = k + 1 := by
        refine Nat.exists_eq_add_one.mpr (Nat.pos_of_ne_zero fun first => missed ?_)
        subst first
        exact isPrefix_iff.mpr occurs
      have shorter : rest.length < fuel := by
        simp only [List.length_cons] at enough
        omega
      have shifted : needle <+: rest.drop i := by
        simpa only [List.drop_succ_cons] using occurs
      rcases matchIndices_covers nonempty shorter shifted with listed | ⟨j, listed, before, within⟩
      · exact .inl (by rwa [show offset + 1 + i = offset + (i + 1) by omega] at listed)
      · exact .inr ⟨j, listed, by omega, by omega⟩

end Scan

theorem bordered_of_overlap {hay needle : List UInt8} {i j : Nat} (first : needle <+: hay.drop j)
    (second : needle <+: hay.drop i) (before : j < i) (within : i < j + needle.length) :
    ∃ k < needle.length, 0 < k ∧ needle.take k = needle.drop (needle.length - k) := by
  obtain ⟨rest, whole⟩ := first
  have later : hay.drop i = (hay.drop j).drop (i - j) := by
    rw [List.drop_drop, Nat.add_sub_cancel' (Nat.le_of_lt before)]
  -- the second occurrence starts with what is left of the first after the shift
  have shifted : hay.drop i = needle.drop (i - j) ++ rest := by
    rw [later, ← whole, List.drop_append_of_le_length (by omega)]
  have short : (needle.drop (i - j)).length = needle.length - (i - j) := List.length_drop ..
  have again := List.prefix_iff_eq_take.mp (shifted ▸ second)
  refine ⟨needle.length - (i - j), by omega, by omega, ?_⟩
  calc needle.take (needle.length - (i - j))
      = ((needle.drop (i - j) ++ rest).take needle.length).take (needle.length - (i - j)) := by
        rw [← again]
    _ = (needle.drop (i - j) ++ rest).take (needle.length - (i - j)) := by
        rw [List.take_take, Nat.min_eq_left (by omega)]
    _ = needle.drop (i - j) := List.take_left' short
    _ = needle.drop (needle.length - (needle.length - (i - j))) := by
        rw [Nat.sub_sub_self (by omega)]

theorem any_isIdentByte_eq_false {b? : Option UInt8} :
    b?.any isIdentByte = false ↔ ∀ b ∈ b?, isIdentByte b = false := by
  cases b? <;> simp

theorem byteBefore_eq {hay : List UInt8} {i : Nat} (inside : i ≤ hay.length) :
    (if i = 0 then none else hay[i - 1]?) = (hay.take i).getLast? := by
  rw [List.getLast?_take]
  split
  · rfl
  · rw [List.getElem?_eq_getElem (by omega), Option.some_or]

theorem containsWord_iff (haystack needle : String) :
    containsWord haystack needle = true ↔ needle.toUTF8.toList ≠ [] ∧
      ∃ j ∈ matchIndices needle.toUTF8.toList haystack.toUTF8.toList 0
          (haystack.toUTF8.toList.length + 1),
        WordAt haystack.toUTF8.toList needle.toUTF8.toList j := by
  simp only [containsWord]
  generalize haystack.toUTF8.toList = hay
  generalize needle.toUTF8.toList = nd
  by_cases empty : nd = []
  · simp [empty]
  simp only [List.isEmpty_iff, empty, if_false, List.any_eq_true, Bool.and_eq_true,
    Bool.not_eq_true', ne_eq, not_false_eq_true, true_and]
  refine exists_congr fun j => and_congr_right fun listed => ?_
  obtain ⟨_, occurs⟩ := matchIndices_sound listed
  have inside : j ≤ hay.length := by
    have := occurs.length_le
    simp only [List.length_drop, Nat.sub_zero] at this
    have := List.length_pos_iff.mpr empty
    omega
  rw [byteBefore_eq inside, ← List.head?_drop, any_isIdentByte_eq_false, any_isIdentByte_eq_false]
  simp only [Nat.sub_zero] at occurs
  exact ⟨fun ⟨before, after⟩ => ⟨occurs, before, after⟩, fun word => ⟨word.2.1, word.2.2⟩⟩

/-- The word search finds nothing that is not a word, and every word of a needle that cannot
overlap itself. -/
theorem containsWord_finds_words (haystack needle : String) :
    (containsWord haystack needle = true →
      ∃ i, WordAt haystack.toUTF8.toList needle.toUTF8.toList i) ∧
    (Unbordered needle.toUTF8.toList → (∃ i, WordAt haystack.toUTF8.toList needle.toUTF8.toList i) →
      containsWord haystack needle = true) := by
  refine ⟨fun found => ?_, fun unbordered ⟨i, word⟩ => ?_⟩
  · obtain ⟨_, j, _, word⟩ := (containsWord_iff haystack needle).mp found
    exact ⟨j, word⟩
  · refine (containsWord_iff haystack needle).mpr ⟨unbordered.1, i, ?_, word⟩
    -- a word the scan passed over would lie inside an earlier match, overlapping it
    rcases @matchIndices_covers _ unbordered.1 _ 0 _ _ (Nat.lt_succ_self _) word.1 with
      listed | ⟨j, listed, before, within⟩
    · simpa using listed
    · obtain ⟨_, occurs⟩ := matchIndices_sound listed
      simp only [Nat.sub_zero, Nat.zero_add] at occurs before within
      obtain ⟨k, short, positive, border⟩ := bordered_of_overlap occurs word.1 before within
      exact absurd border (unbordered.2 k short positive)

theorem containsWord_finds_jsonValue :
    Unbordered "JsonValue".toUTF8.toList ∧ WordAt "a: JsonValue[]".toUTF8.toList "JsonValue".toUTF8.toList 3 ∧
      containsWord "a: JsonValue[]" "JsonValue" = true :=
  have unbordered : Unbordered "JsonValue".toUTF8.toList := by decide +kernel
  have word : WordAt "a: JsonValue[]".toUTF8.toList "JsonValue".toUTF8.toList 3 := by decide +kernel
  ⟨unbordered, word, (containsWord_finds_words "a: JsonValue[]" "JsonValue").2 unbordered ⟨3, word⟩⟩

/-- In `Foo_JsonValue | JsonValue | JsonValue`, the scan matches `JsonValue | JsonValue` inside
`Foo_JsonValue`, which is no word, and resumes past the word at byte 16. -/
theorem containsWord_misses_overlapped_word :
    WordAt "Foo_JsonValue | JsonValue | JsonValue".toUTF8.toList "JsonValue | JsonValue".toUTF8.toList 16 ∧
      containsWord "Foo_JsonValue | JsonValue | JsonValue" "JsonValue | JsonValue" = false := by
  decide +kernel

theorem mentionsBlob_iff (target : String) :
    mentionsBlob target = true ↔
      ∃ blob ∈ blobTypes, ∃ i, WordAt target.toUTF8.toList blob.toUTF8.toList i := by
  have unbordered : ∀ blob ∈ blobTypes, Unbordered blob.toUTF8.toList := by decide +kernel
  simp only [mentionsBlob, List.any_eq_true]
  exact exists_congr fun blob => and_congr_right fun listed =>
    ⟨(containsWord_finds_words target blob).1, (containsWord_finds_words target blob).2 (unbordered blob listed)⟩

end TypedJson.Blob
