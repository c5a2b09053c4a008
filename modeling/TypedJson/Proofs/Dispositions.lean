import TypedJson.Proofs.CatalogRecords
/-!
# Why an alias gets its disposition

Classification tries, in order: the alias as an untagged entity's name, the names a tagged
entity claims, the templates' bases, the scalar-list splits, then the relation shapes. Over a
catalog that builds, each outcome is justified by the entities it was built from
(`Classify.Justified`): a payload or direct object by a tagged entity emitting the name; a
fallback object by the first shape that splits the name, at a base naming a tagged entity with
no shorter base naming one; a list field by a tagged field the name spells out; a fault by the
first shape that splits the name, at its shortest base, when no base names any entity; a no-op
by something untagged the name is tied to. A name a tagged entity emits resolves to it, unless
an untagged entity bears that very name.

Each stage has one inversion lemma: `listFields_some` and `listFields_none` for the scalar-list
splits, `shapeBases_some` and `shapeBases_none` for one shape's bases, and `shapes_cases` for the
shapes in order. The splits of a name come shortest entity first (`splitsBy_sorted`), which turns
the order the bases are tried in into "no shorter base".
-/

namespace TypedJson.Naming

open Text

theorem mem_splitsBy {isSuffix : List Char → Bool} {aliasName : String} {pre suf : List Char} :
    (pre, suf) ∈ splitsBy isSuffix aliasName ↔
      allWord aliasName.toList = true ∧ aliasName.toList = pre ++ suf ∧ pre ≠ [] ∧ suf ≠ [] ∧
        isSuffix suf = true := by
  unfold splitsBy
  by_cases word : allWord aliasName.toList = true
  · simp only [word, Bool.not_true, Bool.false_eq_true, if_false, List.mem_filterMap,
      List.mem_filter, List.mem_range, decide_eq_true_eq, true_and]
    constructor
    · rintro ⟨i, ⟨inside, positive⟩, split⟩
      split at split
      · next accepted =>
        cases split
        refine ⟨(List.take_append_drop i _).symm, ?_, ?_, accepted⟩
        · rw [Ne, List.take_eq_nil_iff, not_or]
          exact ⟨by omega, fun empty => by simp [empty] at inside⟩
        · rw [Ne, List.drop_eq_nil_iff]
          omega
      · cases split
    · rintro ⟨whole, nonempty, rest, accepted⟩
      refine ⟨pre.length, ⟨?_, List.length_pos_iff.mpr nonempty⟩, ?_⟩
      · rw [whole, List.length_append]
        have := List.length_pos_iff.mpr rest
        omega
      · simp [whole, accepted]
  · simp [word]

theorem splitsBy_sorted (isSuffix : List Char → Bool) (aliasName : String) :
    (splitsBy isSuffix aliasName).Pairwise (fun x y => x.1.length < y.1.length) := by
  unfold splitsBy
  dsimp only
  split
  · exact List.Pairwise.nil
  · rw [List.pairwise_filterMap]
    refine (List.pairwise_lt_range.filter _).imp_of_mem fun {i j} _ later less => ?_
    have bound : j < aliasName.toList.length := by
      simpa using (List.mem_filter.mp later).1
    intro x first y second
    split at first <;> split at second <;> cases first <;> cases second
    simp only [List.length_take]
    omega

theorem RelationShape.matchesSuffix_nil (shape : RelationShape) : shape.matchesSuffix [] = false := by
  cases shape <;> decide

theorem RelationShape.mem_bases {shape : RelationShape} {aliasName base : String} :
    base ∈ shape.bases aliasName ↔ allWord aliasName.toList = true ∧ base ≠ "" ∧
      ∃ suf, aliasName.toList = base.toList ++ suf ∧ shape.matchesSuffix suf = true := by
  simp only [bases, List.mem_map, Prod.exists]
  constructor
  · rintro ⟨pre, suf, split, rfl⟩
    obtain ⟨word, whole, nonempty, -, accepted⟩ := mem_splitsBy.mp split
    exact ⟨word, fun empty => nonempty (by simpa [String.toList_eq_nil_iff] using empty), suf,
      by simpa using whole, accepted⟩
  · rintro ⟨word, nonempty, suf, whole, accepted⟩
    have rest : suf ≠ [] := by
      rintro rfl
      rw [shape.matchesSuffix_nil] at accepted
      cases accepted
    refine ⟨base.toList, suf, mem_splitsBy.mpr ⟨word, whole, ?_, rest, accepted⟩, by simp⟩
    rwa [Ne, String.toList_eq_nil_iff]

theorem RelationShape.bases_sorted (shape : RelationShape) (aliasName : String) :
    (shape.bases aliasName).Pairwise (fun b b' => b.length < b'.length) := by
  unfold bases
  rw [List.pairwise_map]
  refine (splitsBy_sorted shape.matchesSuffix aliasName).imp fun less => ?_
  rw [String.length_ofList, String.length_ofList]
  exact less

theorem listField?_eq_some {cs field : List Char} (found : listField? cs = some field) :
    cs = "Create".toList ++ field ++ "Input".toList ∨
      cs = "Update".toList ++ field ++ "Input".toList := by
  unfold listField? at found
  cases verb : (after "Create" cs).orElse fun _ => after "Update" cs with
  | none =>
    rw [verb] at found
    cases found
  | some r =>
    rw [verb] at found
    cases strip : stripSuffix? "Input".toList r with
    | none =>
      simp only [strip, Option.bind_eq_bind, Option.bind_some, Option.bind_none] at found
      cases found
    | some f =>
      simp only [strip, Option.bind_eq_bind, Option.bind_some] at found
      -- the field the match keeps is the one stripped
      have same : f = field := by
        cases f with
        | nil => cases found
        | cons c rest =>
          simp only at found
          split at found
          · exact Option.some.inj found
          · cases found
      subst same
      have whole := (stripSuffix?_eq_some_iff _ _ _).mp strip
      cases created : after "Create" cs with
      | some r' =>
        rw [created] at verb
        cases verb
        left
        rw [(stripPrefix?_eq_some_iff _ _ _).mp created, whole, List.append_assoc]
      | none =>
        rw [created] at verb
        right
        rw [(stripPrefix?_eq_some_iff _ _ _).mp verb, whole, List.append_assoc]

theorem mem_listFieldSplits {aliasName base field : String}
    (split : (base, field) ∈ listFieldSplits aliasName) :
    aliasName = base ++ "Create" ++ field ++ "Input" ∨
      aliasName = base ++ "Update" ++ field ++ "Input" := by
  simp only [listFieldSplits, List.mem_filterMap, Option.map_eq_some_iff, Prod.mk.injEq,
    Prod.exists] at split
  obtain ⟨pre, rest, member, f, found, rfl, rfl⟩ := split
  have whole := (mem_splitsBy.mp member).2.1
  rcases listField?_eq_some found with verb | verb
  · left
    apply String.ext
    simp [whole, verb]
  · right
    apply String.ext
    simp [whole, verb]

def firstShape (aliasName : String) : Option RelationShape :=
  RelationShape.all.find? fun shape => !(shape.bases aliasName).isEmpty

end TypedJson.Naming

namespace TypedJson.Classify

variable {c : Catalog}

theorem listFields_some {seen : Bool} {splits : List (String × String)} {d : Disposition}
    {seen' : Bool} (found : listFields c seen splits = (some d, seen')) :
    ∃ split ∈ splits, ∃ e f, c.entity? split.1 = some e ∧
      e.fields.find? (·.name == split.2) = some f ∧
      d = if f.replacement.isSome then .listField e f else .noOp := by
  induction splits generalizing seen with
  | nil => cases found
  | cons split rest ih =>
    obtain ⟨base, field⟩ := split
    cases entity : c.entity? base with
    | none =>
      simp only [listFields, entity] at found
      obtain ⟨split, member, decides⟩ := ih found
      exact ⟨split, List.mem_cons_of_mem _ member, decides⟩
    | some e =>
      cases field? : e.fields.find? (·.name == field) with
      | none =>
        simp only [listFields, entity, field?] at found
        obtain ⟨split, member, decides⟩ := ih found
        exact ⟨split, List.mem_cons_of_mem _ member, decides⟩
      | some f =>
        simp only [listFields, entity, field?, Prod.mk.injEq, Option.some.injEq] at found
        exact ⟨(base, field), List.mem_cons_self .., e, f, entity, field?, found.1.symm⟩

theorem listFields_none {seen : Bool} {splits : List (String × String)} {seen' : Bool}
    (undecided : listFields c seen splits = (none, seen')) :
    seen' = (seen || splits.any fun split => c.isNoOp split.1) := by
  induction splits generalizing seen with
  | nil =>
    cases undecided
    simp
  | cons split rest ih =>
    obtain ⟨base, field⟩ := split
    cases entity : c.entity? base with
    | none =>
      simp only [listFields, entity] at undecided
      rw [ih undecided, List.any_cons, Bool.or_assoc]
    | some e =>
      cases field? : e.fields.find? (·.name == field) with
      | none =>
        simp only [listFields, entity, field?] at undecided
        rw [ih undecided, List.any_cons, Bool.or_assoc]
      | some f =>
        simp only [listFields, entity, field?, Prod.mk.injEq, reduceCtorEq, false_and] at undecided

theorem shapeBases_some {shape : Naming.RelationShape} {seen : Bool} {shortest : Option String}
    {bases : List String} {d : Disposition} {rest : Bool × Option String}
    (found : shapeBases c shape seen shortest bases = (some d, rest)) :
    ∃ pre base post e, bases = pre ++ base :: post ∧ (∀ b ∈ pre, c.entity? b = none) ∧
      c.entity? base = some e ∧ d = .object e (.fallback shape) := by
  induction bases generalizing seen shortest with
  | nil => cases found
  | cons base bases ih =>
    cases entity : c.entity? base with
    | none =>
      simp only [shapeBases, entity] at found
      obtain ⟨pre, b, post, e, split, unknown, known, rfl⟩ := ih found
      refine ⟨base :: pre, b, post, e, by rw [split, List.cons_append], fun x member => ?_, known,
        rfl⟩
      rcases List.mem_cons.mp member with rfl | earlier
      · exact entity
      · exact unknown x earlier
    | some e =>
      simp only [shapeBases, entity, Prod.mk.injEq, Option.some.injEq] at found
      exact ⟨[], base, bases, e, rfl, by simp, entity, found.1.symm⟩

theorem shapeBases_none {shape : Naming.RelationShape} {seen : Bool} {shortest : Option String}
    {bases : List String} {seen' : Bool} {shortest' : Option String}
    (undecided : shapeBases c shape seen shortest bases = (none, seen', shortest')) :
    (∀ b ∈ bases, c.entity? b = none) ∧ seen' = (seen || bases.any c.isNoOp) ∧
      shortest' = shortest.orElse fun _ => bases.head? := by
  induction bases generalizing seen shortest with
  | nil =>
    cases undecided
    refine ⟨by simp, by simp, ?_⟩
    cases shortest' <;> rfl
  | cons base bases ih =>
    cases entity : c.entity? base with
    | none =>
      simp only [shapeBases, entity] at undecided
      obtain ⟨unknown, noOps, first⟩ := ih undecided
      refine ⟨fun x member => ?_, by rw [noOps, List.any_cons, Bool.or_assoc], ?_⟩
      · rcases List.mem_cons.mp member with rfl | later
        · exact entity
        · exact unknown x later
      · rw [first]
        cases shortest <;> rfl
    | some e =>
      simp only [shapeBases, entity, Prod.mk.injEq, reduceCtorEq, false_and] at undecided

theorem shapes_cases {aliasName : String} {r : Except Error Disposition} :
    ∀ {shapes : List Naming.RelationShape}, Classify.shapes c aliasName false shapes = r →
      (shapes.find? (fun q => !(q.bases aliasName).isEmpty) = none ∧ r = .ok .unresolved) ∨
      ∃ shape, shapes.find? (fun q => !(q.bases aliasName).isEmpty) = some shape ∧
        ((∃ pre base post e, shape.bases aliasName = pre ++ base :: post ∧
            (∀ b ∈ pre, c.entity? b = none) ∧ c.entity? base = some e ∧
            r = .ok (.object e (.fallback shape))) ∨
          ((∀ b ∈ shape.bases aliasName, c.entity? b = none) ∧
            (∃ b ∈ shape.bases aliasName, c.isNoOp b = true) ∧ r = .ok .noOp) ∨
          ((∀ b ∈ shape.bases aliasName, c.entity? b = none ∧ c.isNoOp b = false) ∧
            ∃ base, (shape.bases aliasName).head? = some base ∧
              r = .error (.unknownRelationBase aliasName base shape.name)))
  | [], ran => .inl ⟨rfl, ran.symm⟩
  | shape :: rest, ran => by
    cases bases : shape.bases aliasName with
    | nil =>
      -- a shape without splits passes the name on to the next shape
      have skipped : (shape :: rest).find? (fun q => !(q.bases aliasName).isEmpty) =
          rest.find? (fun q => !(q.bases aliasName).isEmpty) := by
        simp [bases]
      simp only [Classify.shapes, bases, shapeBases, Bool.false_eq_true, if_false] at ran
      rw [skipped]
      exact shapes_cases ran
    | cons first later =>
      have picked : (shape :: rest).find? (fun q => !(q.bases aliasName).isEmpty) = some shape := by
        simp [bases]
      refine .inr ⟨shape, picked, ?_⟩
      rw [bases]
      cases decided : shapeBases c shape false none (first :: later) with
      | mk d rest' =>
        obtain ⟨seen', shortest'⟩ := rest'
        cases d with
        | some d =>
          simp only [Classify.shapes, bases, decided] at ran
          obtain ⟨pre, base, post, e, split, unknown, known, rfl⟩ := shapeBases_some decided
          exact .inl ⟨pre, base, post, e, split, unknown, known, ran.symm⟩
        | none =>
          obtain ⟨unknown, noOps, shortest⟩ := shapeBases_none decided
          simp only [Bool.false_or] at noOps
          subst noOps
          cases anyNoOp : (first :: later).any c.isNoOp with
          | true =>
            simp only [Classify.shapes, bases, decided, anyNoOp, if_true] at ran
            exact .inr (.inl ⟨unknown, List.any_eq_true.mp anyNoOp, ran.symm⟩)
          | false =>
            simp only [Classify.shapes, bases, decided, anyNoOp, Bool.false_eq_true, if_false,
              shortest] at ran
            refine .inr (.inr ⟨fun b member => ⟨unknown b member, ?_⟩, first, rfl, ?_⟩)
            · simpa using List.any_eq_false.mp anyNoOp b member
            · exact ran.symm

open Naming

def UntaggedSource (es : List Entity) (aliasName : String) : Prop :=
  (∃ f ∈ es, f.hasReplacements = false ∧
    (f.name = aliasName ∨ f.name ∈ templateBases aliasName ∨
      (∃ field, (f.name, field) ∈ listFieldSplits aliasName) ∨
      ∃ shape, firstShape aliasName = some shape ∧ f.name ∈ shape.bases aliasName)) ∨
  ∃ e ∈ es, e.hasReplacements = true ∧ ∃ field : Field,
    (e.name, field.name) ∈ listFieldSplits aliasName ∧
    e.fields.find? (·.name == field.name) = some field ∧ field.replacement = none

def Justified (es : List Entity) (aliasName : String) : Except Error Disposition → Prop
  | .ok .notCandidate => False
  | .ok .noOp => UntaggedSource es aliasName
  | .ok .unresolved => firstShape aliasName = none ∧
      (∀ e ∈ es, e.hasReplacements = true → aliasName ∉ namesFor e.name) ∧
      ∀ e ∈ es, e.hasReplacements = false → e.name ≠ aliasName
  | .ok (.payload e) => e ∈ es ∧ e.hasReplacements = true ∧ aliasName = payloadName e.name
  | .ok (.object e .direct) => e ∈ es ∧ e.hasReplacements = true ∧
      aliasName ∈ namesFor e.name ∧ aliasName ≠ payloadName e.name
  | .ok (.object e (.fallback shape)) => e ∈ es ∧ e.hasReplacements = true ∧
      (∃ suf, aliasName.toList = e.name.toList ++ suf ∧ shape.matchesSuffix suf = true) ∧
      firstShape aliasName = some shape ∧
      ∀ b ∈ shape.bases aliasName, b.length < e.name.length →
        ∀ f ∈ es, f.hasReplacements = true → f.name ≠ b
  | .ok (.listField e field) => e ∈ es ∧ e.hasReplacements = true ∧
      (aliasName = e.name ++ "Create" ++ field.name ++ "Input" ∨
        aliasName = e.name ++ "Update" ++ field.name ++ "Input") ∧
      e.fields.find? (·.name == field.name) = some field ∧ field.replacement.isSome = true
  | .error err => ∃ shape base, err = .unknownRelationBase aliasName base shape.name ∧
      firstShape aliasName = some shape ∧ base ∈ shape.bases aliasName ∧
      (∀ b ∈ shape.bases aliasName, base.length ≤ b.length) ∧
      ∀ b ∈ shape.bases aliasName, ∀ f ∈ es, f.name ≠ b

end TypedJson.Classify

namespace TypedJson.Catalog

open Naming

variable {es : List Entity} {c : Catalog}

theorem Records.justified_shapes (records : Records es c) {a : String}
    (unowned : ∀ e ∈ es, e.hasReplacements = true → a ∉ namesFor e.name)
    (notNoOp : ∀ e ∈ es, e.hasReplacements = false → e.name ≠ a) :
    Classify.Justified es a (Classify.shapes c a false RelationShape.all) := by
  rcases Classify.shapes_cases rfl with ⟨none, ran⟩ | ⟨shape, first, decided⟩
  · rw [ran]
    exact ⟨none, unowned, notNoOp⟩
  rcases decided with ⟨pre, base, post, e, split, unknown, known, ran⟩ |
    ⟨-, ⟨b, member, noOp⟩, ran⟩ | ⟨unknown, base, head, ran⟩
  · rw [ran]
    obtain ⟨member, tagged, rfl⟩ := records.entity_eq_some.mp known
    have inBases : e.name ∈ shape.bases a := by simp [split]
    obtain ⟨-, -, suf, whole, accepted⟩ := RelationShape.mem_bases.mp inBases
    refine ⟨member, tagged, ⟨suf, whole, accepted⟩, first,
      fun b inB shorter f fMember fTagged named => ?_⟩
    -- the bases come shortest first, so a shorter one comes before the first known one
    have sorted := shape.bases_sorted a
    rw [split] at sorted inB
    have earlier : b ∈ pre := by
      rcases List.mem_append.mp inB with early | late
      · exact early
      · have tail := List.pairwise_cons.mp (List.pairwise_append.mp sorted).2.1
        rcases List.mem_cons.mp late with rfl | later
        · exact absurd shorter (lt_irrefl _)
        · exact absurd (tail.1 b later) (by omega)
    have found := records.entity_eq_some.mpr ⟨fMember, fTagged, named⟩
    rw [unknown b earlier] at found
    cases found
  · rw [ran]
    obtain ⟨f, fMember, untagged, rfl⟩ := records.isNoOp_iff.mp noOp
    exact .inl ⟨f, fMember, untagged, .inr (.inr (.inr ⟨shape, first, member⟩))⟩
  · rw [ran]
    obtain ⟨rest, split⟩ := List.head?_eq_some_iff.mp head
    have sorted := shape.bases_sorted a
    rw [split] at sorted
    refine ⟨shape, base, rfl, first, by simp [split], fun b member => ?_,
      fun b member f fMember named => ?_⟩
    · rw [split] at member
      rcases List.mem_cons.mp member with rfl | later
      · exact le_refl _
      · exact le_of_lt (List.rel_of_pairwise_cons sorted later)
    · -- a base naming an entity, tagged or not, would have decided
      obtain ⟨unknownBase, notNoOpBase⟩ := unknown b member
      cases tagged : f.hasReplacements with
      | true =>
        have found := records.entity_eq_some.mpr ⟨fMember, tagged, named⟩
        rw [unknownBase] at found
        cases found
      | false =>
        have noOp := records.isNoOp_iff.mpr ⟨f, fMember, tagged, named⟩
        rw [notNoOpBase] at noOp
        cases noOp

theorem Records.justified_listFields (records : Records es c) {a : String} {d : Disposition}
    {seen : Bool} (listed : Classify.listFields c false (listFieldSplits a) = (some d, seen)) :
    Classify.Justified es a (.ok d) := by
  obtain ⟨⟨base, field⟩, split, e, f, known, found, rfl⟩ := Classify.listFields_some listed
  obtain ⟨member, tagged, rfl⟩ := records.entity_eq_some.mp known
  -- the field found is the one the split names
  have named : f.name = field := by simpa using List.find?_some found
  subst named
  cases annotated : f.replacement.isSome with
  | true => exact ⟨member, tagged, mem_listFieldSplits split, found, annotated⟩
  | false => exact .inr ⟨e, member, tagged, f, split, found, by simpa using annotated⟩

theorem Records.justified (records : Records es c) (a : String) :
    Classify.Justified es a (classify c a true) := by
  by_cases self : c.isNoOp a = true
  · simp only [classify, Bool.not_true, Bool.false_eq_true, if_false, self, if_true]
    obtain ⟨f, member, untagged, named⟩ := records.isNoOp_iff.mp self
    exact .inl ⟨f, member, untagged, .inl named⟩
  replace self : c.isNoOp a = false := Bool.eq_false_iff.mpr self
  have notNoOp : ∀ e ∈ es, e.hasReplacements = false → e.name ≠ a :=
    fun e member untagged named => by
      have noOp := records.isNoOp_iff.mpr ⟨e, member, untagged, named⟩
      rw [self] at noOp
      cases noOp
  cases owner : c.entityForAlias? a
  case some e =>
    obtain ⟨member, tagged, emitted⟩ := records.entityForAlias_eq_some.mp owner
    simp only [classify, Bool.not_true, Bool.false_eq_true, if_false, self, owner]
    by_cases payload : a = payloadName e.name
    · simp only [payload, beq_self_eq_true, if_true]
      exact ⟨member, tagged, rfl⟩
    · simp only [payload, beq_iff_eq, if_false]
      exact ⟨member, tagged, emitted, payload⟩
  have unowned : ∀ e ∈ es, e.hasReplacements = true → a ∉ namesFor e.name :=
    fun e member tagged emitted => by
      have owned := records.entityForAlias_eq_some.mpr ⟨member, tagged, emitted⟩
      rw [owner] at owned
      cases owned
  by_cases template : (templateBases a).any c.isNoOp = true
  · simp only [classify, Bool.not_true, Bool.false_eq_true, if_false, self, owner, template,
      if_true]
    obtain ⟨b, made, noOp⟩ := List.any_eq_true.mp template
    obtain ⟨f, member, untagged, rfl⟩ := records.isNoOp_iff.mp noOp
    exact .inl ⟨f, member, untagged, .inr (.inl made)⟩
  replace template : (templateBases a).any c.isNoOp = false := Bool.eq_false_iff.mpr template
  cases listed : Classify.listFields c false (listFieldSplits a) with
  | mk decided seen =>
    cases decided with
    | some d =>
      simp only [classify, Bool.not_true, Bool.false_eq_true, if_false, self, owner, template,
        listed]
      exact records.justified_listFields listed
    | none =>
      have seenNoOp := Classify.listFields_none listed
      rw [Bool.false_or] at seenNoOp
      subst seenNoOp
      cases anyNoOp : (listFieldSplits a).any fun split => c.isNoOp split.1 with
      | true =>
        simp only [classify, Bool.not_true, Bool.false_eq_true, if_false, self, owner, template,
          listed, anyNoOp, if_true]
        obtain ⟨⟨base, field⟩, split, noOp⟩ := List.any_eq_true.mp anyNoOp
        obtain ⟨f, member, untagged, rfl⟩ := records.isNoOp_iff.mp noOp
        exact .inl ⟨f, member, untagged, .inr (.inr (.inl ⟨field, split⟩))⟩
      | false =>
        simp only [classify, Bool.not_true, Bool.false_eq_true, if_false, self, owner, template,
          listed, anyNoOp]
        exact records.justified_shapes unowned notNoOp

theorem Records.classify_of_emitted (records : Records es c) {e : Entity} {a : String}
    (member : e ∈ es) (tagged : e.hasReplacements = true) (emitted : a ∈ namesFor e.name) :
    classify c a true = .ok (if ∃ f ∈ es, f.hasReplacements = false ∧ f.name = a then .noOp
      else if a = payloadName e.name then .payload e else .object e .direct) := by
  by_cases untaggedNamed : ∃ f ∈ es, f.hasReplacements = false ∧ f.name = a
  · have self := records.isNoOp_iff.mpr untaggedNamed
    simp only [classify, Bool.not_true, Bool.false_eq_true, if_false, self, if_true,
      untaggedNamed]
    rfl
  · have self : c.isNoOp a = false := by
      rw [← Bool.not_eq_true, records.isNoOp_iff]
      exact untaggedNamed
    have owner := records.entityForAlias_eq_some.mpr ⟨member, tagged, emitted⟩
    simp only [classify, Bool.not_true, Bool.false_eq_true, if_false, self, owner,
      untaggedNamed, beq_iff_eq]
    rfl

end TypedJson.Catalog

namespace TypedJson

/-- Classifying an alias over a catalog that builds. Every alias of an object type gets a
disposition its entities justify, and a name emitted for a tagged entity resolves to that
entity directly, unless it is the very name of an untagged one. -/
theorem classify_justified {es : List Entity} {c : Catalog} (built : Catalog.ofEntities es = .ok c)
    (a : String) :
    Classify.Justified es a (classify c a true) ∧
    ∀ e ∈ es, e.hasReplacements = true → a ∈ Naming.namesFor e.name →
      classify c a true = .ok (if ∃ f ∈ es, f.hasReplacements = false ∧ f.name = a then .noOp
        else if a = Naming.payloadName e.name then .payload e else .object e .direct) := by
  have records := Catalog.ofEntities_records built
  exact ⟨records.justified a, fun e member tagged emitted =>
    records.classify_of_emitted member tagged emitted⟩

theorem classify_justified_wishList :
    ∃ c, Catalog.ofEntities [⟨"WishList", .model, [⟨"items", "Json", some "WishItems"⟩]⟩,
        ⟨"Wish", .model, [⟨"id", "String", none⟩]⟩] = .ok c ∧
      Classify.Justified [⟨"WishList", .model, [⟨"items", "Json", some "WishItems"⟩]⟩,
          ⟨"Wish", .model, [⟨"id", "String", none⟩]⟩] "WishListRelationFilter"
        (classify c "WishListRelationFilter" true) ∧
      ∀ e ∈ ([⟨"WishList", .model, [⟨"items", "Json", some "WishItems"⟩]⟩,
          ⟨"Wish", .model, [⟨"id", "String", none⟩]⟩] : List Entity),
        e.hasReplacements = true → "WishListRelationFilter" ∈ Naming.namesFor e.name →
        classify c "WishListRelationFilter" true =
          .ok (if ∃ f ∈ ([⟨"WishList", .model, [⟨"items", "Json", some "WishItems"⟩]⟩,
              ⟨"Wish", .model, [⟨"id", "String", none⟩]⟩] : List Entity),
              f.hasReplacements = false ∧ f.name = "WishListRelationFilter" then .noOp
            else if "WishListRelationFilter" = Naming.payloadName e.name then .payload e
            else .object e .direct) := by
  obtain ⟨c, built⟩ : ∃ c, Catalog.ofEntities [⟨"WishList", .model, [⟨"items", "Json", some "WishItems"⟩]⟩,
      ⟨"Wish", .model, [⟨"id", "String", none⟩]⟩] = .ok c :=
    Catalog.ofEntities_ok_of_apart (by simp [Catalog.NamesApart, Entity.hasReplacements])
  exact ⟨c, built, classify_justified built "WishListRelationFilter"⟩

end TypedJson
