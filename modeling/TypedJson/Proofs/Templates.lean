import TypedJson.Proofs.CatalogRecords
/-!
# Template names invert

An alias is a template base's name exactly when taking the template's two sides off the alias
leaves that base: the bases of an alias are the non-empty entities whose generated names
contain it, one for each template the alias was made by, in template order. Distinct templates
never make the same name, so every entity has as many generated names as there are templates.
-/
namespace TypedJson.Naming

open Text

variable {a b t : String}

theorem templateBase?_eq_some (template : t ∈ aliasTemplates) :
    templateBase? a t = some b ↔ b ≠ "" ∧ instantiate b t = a := by
  obtain ⟨pre, suf, split, whole, noPre, noSuf⟩ :=
    splitTemplate_eq (aliasTemplates_count t template)
  constructor
  · intro found
    simp only [templateBase?, split, Option.bind_eq_bind, Option.bind_eq_some_iff,
      Option.some.injEq, exists_eq_left'] at found
    obtain ⟨rest, stripped, base, unsuffixed, kept⟩ := found
    have made : a.toList = pre ++ base ++ suf := by
      rw [(stripPrefix?_eq_some_iff _ _ _).mp stripped,
        (stripSuffix?_eq_some_iff _ _ _).mp unsuffixed, List.append_assoc]
    split at kept
    · cases kept
    · next nonempty =>
      cases kept
      refine ⟨fun empty => nonempty ?_, ?_⟩
      · simpa using congrArg String.toList empty
      · rw [← String.toList_inj, instantiate_toList _ whole noPre noSuf, made,
          String.toList_ofList]
  · rintro ⟨named, rfl⟩
    exact templateBase?_instantiate template named

theorem mem_templateBases_iff : b ∈ templateBases a ↔ b ≠ "" ∧ a ∈ namesFor b := by
  simp only [templateBases, List.mem_filterMap, mem_namesFor]
  constructor
  · rintro ⟨t, template, found⟩
    obtain ⟨named, rfl⟩ := (templateBase?_eq_some template).mp found
    exact ⟨named, t, template, rfl⟩
  · rintro ⟨named, t, template, rfl⟩
    exact ⟨t, template, (templateBase?_eq_some template).mpr ⟨named, rfl⟩⟩

theorem forall₂_filterMap {α β : Type} {R : α → β → Prop} (f : α → Option β) :
    ∀ l : List α, (∀ x ∈ l, ∀ y, f x = some y → R x y) →
      List.Forall₂ R (l.filter fun x => (f x).isSome) (l.filterMap f)
  | [], _ => .nil
  | x :: xs, related => by
    have rest := forall₂_filterMap f xs fun y member => related y (List.mem_cons_of_mem x member)
    cases found : f x with
    | none => simpa [List.filter_cons, found] using rest
    | some y =>
      simpa [List.filter_cons, found] using
        List.Forall₂.cons (related x (List.mem_cons_self ..) y found) rest

/-- Template names invert exactly. A string is a template base of an alias exactly when it is
non-empty and the alias is one of its generated names; the bases come one for each template
that makes the alias from a non-empty base, in template order; and every entity has one
generated name per template, no two templates making the same name. -/
theorem templateBases_invert (a b : String) :
    (b ∈ templateBases a ↔ b ≠ "" ∧ a ∈ namesFor b) ∧
    (∃ ts, ts.Sublist aliasTemplates ∧
      (∀ t ∈ aliasTemplates, t ∈ ts ↔ ∃ base, base ≠ "" ∧ instantiate base t = a) ∧
      List.Forall₂ (fun t base => base ≠ "" ∧ instantiate base t = a) ts
        (templateBases a)) ∧
    (namesFor b).length = 36 ∧ (aliasTemplates.map (instantiate b)).Nodup := by
  refine ⟨mem_templateBases_iff, ⟨aliasTemplates.filter fun t => (templateBase? a t).isSome,
    List.filter_sublist, fun t template => ?_, ?_⟩, ?_, ?_⟩
  · simp only [List.mem_filter, template, true_and, Option.isSome_iff_exists,
      templateBase?_eq_some template]
  · exact forall₂_filterMap _ _ fun t template base => (templateBase?_eq_some template).mp
  · exact namesFor_length b
  · exact aliasTemplates_nodup.map_on fun _ one _ other same =>
      instantiate_injective one other same

example : templateBases "PostWhereInput" = ["PostWhereInput", "Post"] := by
  decide +kernel

end TypedJson.Naming
