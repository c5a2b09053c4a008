import TypedJson.Proofs.Dispositions
/-!
# Relation and list splits

The relation shapes are written in the source as regular expressions for what follows the
entity in a name. A name is first matched whole against `^\w+?(?:suffix)$`, and only then are
its splits tried, each at a position where the rest matches `^(?:suffix)$` in full. Here the
expressions are written as patterns (`Pattern`) with the texts they match in full (`Matches`),
the recognisers of the shapes are shown to accept exactly those texts, and the splits of every
name are shown to be exactly its non-empty word prefixes followed by a text of the suffix,
shortest first: the pre-check accepts a name exactly when it has such a split. The scalar-list
splits are characterised the same way.
-/
namespace TypedJson.Naming

open Text

inductive Pattern where
  | text (s : String)
  | word
  | lower
  | seq (p q : Pattern)
  | alt (p q : Pattern)
  | opt (p : Pattern)
  | many (p : Pattern)
deriving Repr, Inhabited

def Pattern.plus (p : Pattern) : Pattern := .seq p (.many p)

inductive Matches : Pattern → List Char → Prop
  | text (s : String) : Matches (.text s) s.toList
  | word {c : Char} : isWordChar c = true → Matches .word [c]
  | lower {c : Char} : 'a' ≤ c → c ≤ 'z' → Matches .lower [c]
  | seq {p q : Pattern} {u v : List Char} :
      Matches p u → Matches q v → Matches (.seq p q) (u ++ v)
  | left {p q : Pattern} {u : List Char} : Matches p u → Matches (.alt p q) u
  | right {p q : Pattern} {u : List Char} : Matches q u → Matches (.alt p q) u
  | skip {p : Pattern} : Matches (.opt p) []
  | once {p : Pattern} {u : List Char} : Matches p u → Matches (.opt p) u
  | nil {p : Pattern} : Matches (.many p) []
  | cons {p : Pattern} {u v : List Char} :
      Matches p u → Matches (.many p) v → Matches (.many p) (u ++ v)

section Matches

variable {p q : Pattern} {s : String} {cs : List Char}

@[simp] theorem matches_text : Matches (.text s) cs ↔ cs = s.toList := by
  constructor
  · intro matched
    cases matched
    rfl
  · rintro rfl
    exact .text s

@[simp] theorem matches_word : Matches .word cs ↔ ∃ c, cs = [c] ∧ isWordChar c = true := by
  constructor
  · intro matched
    cases matched with
    | word word => exact ⟨_, rfl, word⟩
  · rintro ⟨c, rfl, word⟩
    exact .word word

@[simp] theorem matches_lower :
    Matches .lower cs ↔ ∃ c, cs = [c] ∧ 'a' ≤ c ∧ c ≤ 'z' := by
  constructor
  · intro matched
    cases matched with
    | lower low high => exact ⟨_, rfl, low, high⟩
  · rintro ⟨c, rfl, low, high⟩
    exact .lower low high

@[simp] theorem matches_seq :
    Matches (.seq p q) cs ↔ ∃ u v, cs = u ++ v ∧ Matches p u ∧ Matches q v := by
  constructor
  · intro matched
    cases matched with
    | seq first second => exact ⟨_, _, rfl, first, second⟩
  · rintro ⟨u, v, rfl, first, second⟩
    exact .seq first second

@[simp] theorem matches_alt : Matches (.alt p q) cs ↔ Matches p cs ∨ Matches q cs := by
  constructor
  · intro matched
    cases matched with
    | left first => exact .inl first
    | right second => exact .inr second
  · rintro (first | second)
    · exact .left first
    · exact .right second

@[simp] theorem matches_opt : Matches (.opt p) cs ↔ cs = [] ∨ Matches p cs := by
  constructor
  · intro matched
    cases matched with
    | skip => exact .inl rfl
    | once once => exact .inr once
  · rintro (rfl | once)
    · exact .skip
    · exact .once once

@[simp] theorem allWord_append (xs ys : List Char) :
    allWord (xs ++ ys) = (allWord xs && allWord ys) := by
  simp [allWord]

theorem matches_many_word : Matches (.many .word) cs ↔ allWord cs = true := by
  constructor
  · intro matched
    generalize pattern : Pattern.many .word = p at matched
    induction matched with
    | nil => rfl
    | cons first _ _ ih =>
      cases pattern
      obtain ⟨c, rfl, word⟩ := matches_word.mp first
      simpa [allWord, word] using ih rfl
    | _ => cases pattern
  · intro words
    induction cs with
    | nil => exact .nil
    | cons c cs ih =>
      simp only [allWord, List.all_cons, Bool.and_eq_true] at words
      exact Matches.cons (u := [c]) (.word words.1) (ih words.2)

theorem matches_plus_word : Matches Pattern.word.plus cs ↔ cs ≠ [] ∧ allWord cs = true := by
  simp only [Pattern.plus, matches_seq, matches_word, matches_many_word]
  constructor
  · rintro ⟨_, v, rfl, ⟨c, rfl, word⟩, rest⟩
    simpa [allWord, word] using rest
  · rintro ⟨nonempty, words⟩
    obtain ⟨c, rest, rfl⟩ := List.exists_cons_of_ne_nil nonempty
    simp only [allWord, List.all_cons, Bool.and_eq_true] at words
    exact ⟨[c], rest, rfl, ⟨c, rfl, words.1⟩, words.2⟩

end Matches

def Pattern.words : Pattern → List (List Char)
  | .text s => [s.toList]
  | .seq p q => p.words.flatMap fun u => q.words.map (u ++ ·)
  | .alt p q => p.words ++ q.words
  | .opt p => [] :: p.words
  | .word | .lower | .many _ => []

def Pattern.finite : Pattern → Bool
  | .text _ => true
  | .seq p q | .alt p q => p.finite && q.finite
  | .opt p => p.finite
  | .word | .lower | .many _ => false

theorem matches_iff_mem_words {p : Pattern} (finite : p.finite = true) {cs : List Char} :
    Matches p cs ↔ cs ∈ p.words := by
  induction p generalizing cs with
  | text s => simp [Pattern.words]
  | seq p q first second =>
    simp only [Pattern.finite, Bool.and_eq_true] at finite
    simp only [matches_seq, first finite.1, second finite.2, Pattern.words, List.mem_flatMap,
      List.mem_map]
    constructor
    · rintro ⟨u, v, rfl, inFirst, inSecond⟩
      exact ⟨u, inFirst, v, inSecond, rfl⟩
    · rintro ⟨u, inFirst, v, inSecond, rfl⟩
      exact ⟨u, v, rfl, inFirst, inSecond⟩
  | alt p q first second =>
    simp only [Pattern.finite, Bool.and_eq_true] at finite
    simp [first finite.1, second finite.2, Pattern.words]
  | opt p inner => simp [inner finite, Pattern.words]
  | word | lower | many => cases finite

theorem matches_seq_finite {p q : Pattern} (finite : p.finite = true) {cs : List Char} :
    Matches (.seq p q) cs ↔ ∃ x ∈ p.words, ∃ r, cs = x ++ r ∧ Matches q r := by
  simp only [matches_seq, matches_iff_mem_words finite]
  constructor
  · rintro ⟨u, v, rfl, first, second⟩
    exact ⟨u, first, v, rfl, second⟩
  · rintro ⟨u, first, v, rfl, second⟩
    exact ⟨u, v, rfl, first, second⟩

def verbPattern : Pattern := .alt (.text "Create") (.alt (.text "Update") (.text "Upsert"))

def withoutHead : Pattern :=
  .seq (.opt (.text "Unchecked")) <| .seq verbPattern <|
    .seq (.opt (.alt (.text "OrConnect") <|
      .alt (.seq (.text "Nested") (.alt (.text "Many") (.text "One"))) <|
      .alt (.seq (.text "Many") (.opt (.text "WithWhere"))) <|
      .alt (.seq (.text "One") (.opt (.text "Required"))) <|
      .alt (.text "ToOneWithWhere") (.text "WithWhereUnique"))) <|
    .text "Without"

def RelationShape.suffix : RelationShape → Pattern
  | .withoutRelation =>
    .seq withoutHead <| .seq Pattern.word.plus <| .seq (.opt (.text "Nested")) (.text "Input")
  | .createManyRelation =>
    .seq (.text "CreateMany") <| .seq Pattern.word.plus <|
      .seq (.text "Input") (.opt (.text "Envelope"))
  | .relationFilter =>
    .seq (.opt (.alt (.text "List") (.text "Nullable"))) <| .seq (.opt (.text "Scalar")) <|
      .text "RelationFilter"
  | .relationAggregateOrder => .text "OrderByRelationAggregateInput"

theorem withoutHead_words : withoutHead.words =
    ["", "Unchecked"].flatMap fun u => ["Create", "Update", "Upsert"].flatMap fun v =>
      withoutModifiers.map fun m => (u ++ v ++ m ++ "Without").toList := by
  decide +kernel

theorem relationFilter_words : RelationShape.relationFilter.suffix.words =
    relationFilterSuffixes.map String.toList := by
  decide +kernel

theorem after_eq_some {pre : String} {cs r : List Char} :
    after pre cs = some r ↔ cs = pre.toList ++ r :=
  stripPrefix?_eq_some_iff _ _ _

theorem wordsThen_iff {suf : String} {cs : List Char} :
    wordsThen suf cs = true ↔ ∃ w, cs = w ++ suf.toList ∧ w ≠ [] ∧ allWord w = true := by
  unfold wordsThen
  cases stripped : stripSuffix? suf.toList cs with
  | none =>
    simp only [Bool.false_eq_true, false_iff, not_exists, not_and]
    intro w whole
    rw [(stripSuffix?_eq_some_iff _ _ w).mpr whole] at stripped
    cases stripped
  | some w =>
    have whole := (stripSuffix?_eq_some_iff _ _ _).mp stripped
    simp only [Bool.and_eq_true, Bool.not_eq_true', List.isEmpty_eq_false_iff]
    constructor
    · rintro ⟨nonempty, words⟩
      exact ⟨w, whole, nonempty, words⟩
    · rintro ⟨w', whole', nonempty, words⟩
      obtain rfl := List.append_cancel_right (whole.symm.trans whole')
      exact ⟨nonempty, words⟩

theorem matches_wordsInput {t : List Char} :
    Matches (.seq Pattern.word.plus (.seq (.opt (.text "Nested")) (.text "Input"))) t ↔
      ∃ w, t = w ++ "Input".toList ∧ w ≠ [] ∧ allWord w = true := by
  simp only [matches_seq, matches_plus_word, matches_opt, matches_text]
  constructor
  · rintro ⟨w, _, rfl, ⟨nonempty, words⟩, n, _, rfl, nested, rfl⟩
    refine ⟨w ++ n, by rw [List.append_assoc], by simp [nonempty], ?_⟩
    rcases nested with rfl | rfl
    · simpa using words
    · simp only [allWord, List.all_append, Bool.and_eq_true]
      exact ⟨words, by decide +kernel⟩
  · rintro ⟨w, rfl, nonempty, words⟩
    exact ⟨w, _, rfl, ⟨nonempty, words⟩, [], _, rfl, .inl rfl, rfl⟩

theorem isWithoutSuffix_eq (cs : List Char) : isWithoutSuffix cs =
    ((cs :: (after "Unchecked" cs).toList).any fun r =>
      ["Create", "Update", "Upsert"].any fun verb => (after verb r).any fun r => withoutModifiers.any fun m =>
        (after (m ++ "Without") r).any (wordsThen "Input")) := by
  unfold isWithoutSuffix
  dsimp only
  congr
  funext r
  congr
  funext verb
  cases after verb r with
  | none => rfl
  | some r' =>
    simp only [Option.any_some]
    congr
    funext m
    cases after (m ++ "Without") r' <;> rfl

theorem isWithoutSuffix_iff {cs : List Char} :
    isWithoutSuffix cs = true ↔ Matches RelationShape.withoutRelation.suffix cs := by
  rw [isWithoutSuffix_eq, RelationShape.suffix, matches_seq_finite (by decide), withoutHead_words]
  simp only [List.any_eq_true, List.mem_cons, Option.mem_toList, Option.any_eq_true, after_eq_some,
    wordsThen_iff, matches_wordsInput, List.mem_flatMap, List.mem_map, List.not_mem_nil, or_false]
  constructor
  · rintro ⟨r, start, verb, isVerb, _, rfl, m, isModifier, _, rfl, w, rfl, nonempty, words⟩
    -- the optional `Unchecked` was there or not
    rcases start with rfl | rfl
    · exact ⟨_, ⟨"", .inl rfl, verb, isVerb, m, isModifier, rfl⟩, _, by simp, w, rfl, nonempty,
        words⟩
    · exact ⟨_, ⟨"Unchecked", .inr rfl, verb, isVerb, m, isModifier, rfl⟩, _, by simp, w, rfl,
        nonempty, words⟩
  · rintro ⟨_, ⟨u, unchecked, verb, isVerb, m, isModifier, rfl⟩, _, rfl, w, rfl, nonempty,
      words⟩
    rcases unchecked with rfl | rfl
    · exact ⟨_, .inl rfl, verb, isVerb, _, by simp, m, isModifier, _, rfl, w, rfl, nonempty,
        words⟩
    · exact ⟨_, .inr (by simp), verb, isVerb, _, rfl, m, isModifier, _, rfl, w, rfl, nonempty,
        words⟩

theorem isCreateManySuffix_eq (cs : List Char) : isCreateManySuffix cs =
    (after "CreateMany" cs).any fun t => wordsThen "Input" t || wordsThen "InputEnvelope" t := by
  unfold isCreateManySuffix
  cases after "CreateMany" cs <;> rfl

theorem isCreateManySuffix_iff {cs : List Char} :
    isCreateManySuffix cs = true ↔ Matches RelationShape.createManyRelation.suffix cs := by
  rw [isCreateManySuffix_eq, RelationShape.suffix]
  simp only [Option.any_eq_true, after_eq_some, Bool.or_eq_true, wordsThen_iff, matches_seq,
    matches_text, matches_plus_word, matches_opt]
  have envelope : "InputEnvelope".toList = "Input".toList ++ "Envelope".toList := rfl
  constructor
  · rintro ⟨_, rfl, ⟨w, rfl, nonempty, words⟩ | ⟨w, rfl, nonempty, words⟩⟩
    · exact ⟨_, _, rfl, rfl, w, _, rfl, ⟨nonempty, words⟩, _, [], by simp, rfl, .inl rfl⟩
    · exact ⟨_, _, rfl, rfl, w, _, by rw [envelope], ⟨nonempty, words⟩, _, _, rfl, rfl,
        .inr rfl⟩
  · rintro ⟨_, _, rfl, rfl, w, _, rfl, ⟨nonempty, words⟩, _, _, rfl, rfl, ending⟩
    rcases ending with rfl | rfl
    · exact ⟨_, rfl, .inl ⟨w, by simp, nonempty, words⟩⟩
    · exact ⟨_, rfl, .inr ⟨w, by rw [envelope], nonempty, words⟩⟩

theorem RelationShape.matchesSuffix_iff (shape : RelationShape) {cs : List Char} :
    shape.matchesSuffix cs = true ↔ Matches shape.suffix cs := by
  cases shape with
  | withoutRelation => exact isWithoutSuffix_iff
  | createManyRelation => exact isCreateManySuffix_iff
  | relationFilter =>
    rw [matches_iff_mem_words (by decide), relationFilter_words]
    simp only [matchesSuffix, List.any_eq_true, beq_iff_eq, List.mem_map]
  | relationAggregateOrder => simp only [matchesSuffix, suffix, matches_text, beq_iff_eq]

def Pattern.wordy : Pattern → Bool
  | .text s => allWord s.toList
  | .word | .lower => true
  | .seq p q | .alt p q => p.wordy && q.wordy
  | .opt p | .many p => p.wordy

theorem lowercase_word : ∀ n < 26, isWordChar (Char.ofNat (97 + n)) = true := by
  decide +kernel

theorem isWordChar_of_lower {c : Char} (low : 'a' ≤ c) (high : c ≤ 'z') :
    isWordChar c = true := by
  have lowN : 97 ≤ c.toNat := low
  have highN : c.toNat ≤ 122 := high
  have letter := lowercase_word (c.toNat - 97) (by omega)
  rwa [show 97 + (c.toNat - 97) = c.toNat by omega, Char.ofNat_toNat] at letter

theorem allWord_of_matches {p : Pattern} {cs : List Char} (matched : Matches p cs)
    (wordy : p.wordy = true) : allWord cs = true := by
  induction matched with
  | text s => exact wordy
  | word word => simp [allWord, word]
  | lower low high => simp [allWord, isWordChar_of_lower low high]
  | seq _ _ first second =>
    simp only [Pattern.wordy, Bool.and_eq_true] at wordy
    simp only [allWord, List.all_append, Bool.and_eq_true] at first second ⊢
    exact ⟨first wordy.1, second wordy.2⟩
  | left _ first =>
    simp only [Pattern.wordy, Bool.and_eq_true] at wordy
    exact first wordy.1
  | right _ second =>
    simp only [Pattern.wordy, Bool.and_eq_true] at wordy
    exact second wordy.2
  | skip | nil => rfl
  | once _ inner => exact inner wordy
  | cons _ _ first rest =>
    simp only [allWord, List.all_append, Bool.and_eq_true] at first rest ⊢
    exact ⟨first wordy, rest wordy⟩

theorem RelationShape.suffix_wordy (shape : RelationShape) : shape.suffix.wordy = true := by
  cases shape <;> decide +kernel

theorem RelationShape.mem_bases_iff {shape : RelationShape} {a b : String} :
    b ∈ shape.bases a ↔ b ≠ "" ∧ allWord b.toList = true ∧
      ∃ suf, a.toList = b.toList ++ suf ∧ Matches shape.suffix suf := by
  rw [mem_bases]
  simp only [← shape.matchesSuffix_iff]
  constructor
  · rintro ⟨words, nonempty, suf, whole, accepted⟩
    rw [whole, allWord, List.all_append, Bool.and_eq_true] at words
    exact ⟨nonempty, words.1, suf, whole, accepted⟩
  · rintro ⟨nonempty, words, suf, whole, accepted⟩
    have rest := allWord_of_matches (shape.matchesSuffix_iff.mp accepted) shape.suffix_wordy
    refine ⟨?_, nonempty, suf, whole, accepted⟩
    rw [whole, allWord, List.all_append, Bool.and_eq_true]
    exact ⟨words, rest⟩

theorem RelationShape.matches_whole_iff (shape : RelationShape) (a : String) :
    Matches (.seq Pattern.word.plus shape.suffix) a.toList ↔ shape.bases a ≠ [] := by
  rw [matches_seq]
  simp only [matches_plus_word]
  constructor
  · rintro ⟨u, suf, whole, ⟨nonempty, words⟩, accepted⟩
    refine List.ne_nil_of_mem (a := String.ofList u)
      (mem_bases_iff.mpr ⟨?_, ?_, suf, ?_, accepted⟩)
    · simpa [← String.toList_inj] using nonempty
    · simpa using words
    · simpa using whole
  · intro found
    obtain ⟨b, member⟩ := List.exists_mem_of_ne_nil _ found
    obtain ⟨nonempty, words, suf, whole, accepted⟩ := mem_bases_iff.mp member
    exact ⟨b.toList, suf, whole, ⟨by simpa [String.toList_eq_nil_iff] using nonempty, words⟩,
      accepted⟩

def fieldPattern : Pattern := .seq .lower (.many .word)

theorem matches_fieldPattern {f : List Char} : Matches fieldPattern f ↔
    ∃ c rest, f = c :: rest ∧ 'a' ≤ c ∧ c ≤ 'z' ∧ allWord rest = true := by
  simp only [fieldPattern, matches_seq, matches_lower, matches_many_word]
  constructor
  · rintro ⟨_, rest, rfl, ⟨c, rfl, low, high⟩, words⟩
    exact ⟨c, rest, rfl, low, high, words⟩
  · rintro ⟨c, rest, rfl, low, high, words⟩
    exact ⟨[c], rest, rfl, ⟨c, rfl, low, high⟩, words⟩

theorem listVerb_eq_some {cs r : List Char} :
    (after "Create" cs).orElse (fun _ => after "Update" cs) = some r ↔
      cs = "Create".toList ++ r ∨ cs = "Update".toList ++ r := by
  cases created : after "Create" cs with
  | some r' =>
    have whole := after_eq_some.mp created
    simp only [Option.orElse_some, Option.some.injEq]
    constructor
    · rintro rfl
      exact .inl whole
    · rintro (same | same)
      · rw [whole] at same
        exact List.append_cancel_left same
      · rw [whole] at same
        cases same
  | none =>
    simp only [Option.orElse_none, after_eq_some]
    constructor
    · exact .inr
    · rintro (same | same)
      · rw [← after_eq_some] at same
        rw [same] at created
        cases created
      · exact same

theorem listField?_eq_some_iff {cs f : List Char} :
    listField? cs = some f ↔
      (cs = "Create".toList ++ f ++ "Input".toList ∨
        cs = "Update".toList ++ f ++ "Input".toList) ∧ Matches fieldPattern f := by
  unfold listField?
  constructor
  · intro found
    simp only [Option.bind_eq_bind, Option.bind_eq_some_iff] at found
    obtain ⟨r, verb, field, stripped, kept⟩ := found
    have whole := (stripSuffix?_eq_some_iff _ _ _).mp stripped
    cases field with
    | nil => cases kept
    | cons c rest =>
      simp only [Bool.and_eq_true, decide_eq_true_eq] at kept
      split at kept
      · next accepted =>
        cases kept
        refine ⟨?_, matches_fieldPattern.mpr
          ⟨c, rest, rfl, accepted.1.1, accepted.1.2, accepted.2⟩⟩
        rcases listVerb_eq_some.mp verb with same | same <;> rw [same, whole]
        · exact .inl (List.append_assoc ..).symm
        · exact .inr (List.append_assoc ..).symm
      · cases kept
  · rintro ⟨whole, named⟩
    obtain ⟨c, rest, rfl, low, high, words⟩ := matches_fieldPattern.mp named
    have verb : (after "Create" cs).orElse (fun _ => after "Update" cs) =
        some (c :: rest ++ "Input".toList) := by
      rw [listVerb_eq_some]
      rcases whole with same | same <;> rw [same, List.append_assoc]
      · exact .inl rfl
      · exact .inr rfl
    have stripped : stripSuffix? "Input".toList (c :: rest ++ "Input".toList) = some (c :: rest) :=
      (stripSuffix?_eq_some_iff _ _ _).mpr rfl
    simp only [Option.bind_eq_bind]
    rw [verb, Option.bind_some, stripped, Option.bind_some]
    simp [low, high, words]

theorem mem_listFieldSplits_iff {a b f : String} :
    (b, f) ∈ listFieldSplits a ↔ b ≠ "" ∧ allWord b.toList = true ∧
      (a = b ++ "Create" ++ f ++ "Input" ∨ a = b ++ "Update" ++ f ++ "Input") ∧
        Matches fieldPattern f.toList := by
  simp only [listFieldSplits, List.mem_filterMap, Option.map_eq_some_iff, Prod.mk.injEq,
    Prod.exists]
  constructor
  · rintro ⟨pre, rest, member, f', found, rfl, rfl⟩
    obtain ⟨words, whole, nonempty, -, -⟩ := mem_splitsBy.mp member
    obtain ⟨verb, named⟩ := listField?_eq_some_iff.mp found
    rw [whole, allWord_append, Bool.and_eq_true] at words
    refine ⟨by simpa [← String.toList_inj] using nonempty, by simpa only [String.toList_ofList]
      using words.1, ?_, by simpa using named⟩
    rcases verb with verb | verb
    · exact .inl (String.ext (by simp [whole, verb]))
    · exact .inr (String.ext (by simp [whole, verb]))
  · rintro ⟨nonempty, words, whole, named⟩
    -- after the base come a verb, the field and `Input`, all of them word characters
    have split : ∀ verb : String, allWord verb.toList = true →
        listField? (verb.toList ++ f.toList ++ "Input".toList) = some f.toList →
        a = b ++ verb ++ f ++ "Input" →
        ∃ pre rest, (pre, rest) ∈ splitsBy (fun cs => (listField? cs).isSome) a ∧
          ∃ f', listField? rest = some f' ∧ String.ofList pre = b ∧ String.ofList f' = f := by
      intro verb verbWords found rfl
      have fieldWords := allWord_of_matches named (by decide)
      have inputWords : allWord "Input".toList = true := by decide +kernel
      refine ⟨b.toList, _, mem_splitsBy.mpr ⟨?_, by simp, ?_, by simp, by rw [found]; rfl⟩, _,
        found, by simp, by simp⟩
      · simp only [String.toList_append, allWord_append, words, verbWords, fieldWords, inputWords,
          Bool.and_self]
      · simpa [String.toList_eq_nil_iff] using nonempty
    rcases whole with same | same
    · exact split "Create" (by decide +kernel) (listField?_eq_some_iff.mpr ⟨.inl rfl, named⟩)
        same
    · exact split "Update" (by decide +kernel) (listField?_eq_some_iff.mpr ⟨.inr rfl, named⟩)
        same

theorem listFieldSplits_sorted (a : String) :
    (listFieldSplits a).Pairwise (fun x y => x.1.length < y.1.length) := by
  unfold listFieldSplits
  rw [List.pairwise_filterMap]
  refine (splitsBy_sorted _ a).imp fun {x y} shorter => ?_
  intro p first q second
  obtain ⟨_, _, rfl⟩ := Option.map_eq_some_iff.mp first
  obtain ⟨_, _, rfl⟩ := Option.map_eq_some_iff.mp second
  simpa using shorter

/-- Relation and list splits agree with their pre-check. For every name and every relation
shape, the bases are exactly the non-empty word prefixes followed by a text of the shape's
suffix expression, shortest first, and the whole-name pre-check (`\w+?`, then the suffix)
accepts the name exactly when it has a base, so it neither hides a split nor admits a name
without one. The scalar-list splits are exactly the non-empty word prefixes followed by
`Create` or `Update`, a field of the form `[a-z]\w*` and `Input`, shortest first. -/
theorem nameSplits_exact (a : String) :
    (∀ shape : RelationShape,
      (∀ b, b ∈ shape.bases a ↔ b ≠ "" ∧ allWord b.toList = true ∧
        ∃ suf, a.toList = b.toList ++ suf ∧ Matches shape.suffix suf) ∧
      (shape.bases a).Pairwise (fun b b' => b.length < b'.length) ∧
      (Matches (.seq Pattern.word.plus shape.suffix) a.toList ↔ shape.bases a ≠ [])) ∧
    (∀ b f, (b, f) ∈ listFieldSplits a ↔ b ≠ "" ∧ allWord b.toList = true ∧
      (a = b ++ "Create" ++ f ++ "Input" ∨ a = b ++ "Update" ++ f ++ "Input") ∧
        Matches fieldPattern f.toList) ∧
    (listFieldSplits a).Pairwise (fun x y => x.1.length < y.1.length) :=
  ⟨fun shape => ⟨fun _ => RelationShape.mem_bases_iff, shape.bases_sorted a,
      shape.matches_whole_iff a⟩,
    fun _ _ => mem_listFieldSplits_iff, listFieldSplits_sorted a⟩

example : RelationShape.relationFilter.bases "WishListScalarRelationFilter" =
    ["Wish", "WishList", "WishListScalar"] := by
  decide +kernel

end TypedJson.Naming
