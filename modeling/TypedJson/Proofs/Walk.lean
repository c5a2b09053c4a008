import TypedJson.Proofs.Spans
/-!
# Walking a module

The walk finds type aliases at the top of a module and inside the namespaces it enters. On a
well-formed tree the aliases come out in source order with their declarations apart, each
declaration well formed and holding its value as a child. The only fault a walk records is a
namespace entered without statements; met after statements that declare no namespace, it stops
the walk with their aliases.
-/
namespace TypedJson

open Syntax

variable {source : String}

theorem unwrapDeclaration_inside :
    ∀ (fuel : Nat) {s d : Node}, s.wellFormed source = true → unwrapDeclaration fuel s = some d →
      d.wellFormed source = true ∧ s.start ≤ d.start ∧ d.stop ≤ s.stop
  | 0, _, _, _, unwrapped => by cases unwrapped
  | fuel + 1, s, d, wf, unwrapped => by
    unfold unwrapDeclaration at unwrapped
    split at unwrapped
    · -- `export` and `declare` wrap their declaration as a child
      obtain ⟨inner, field, rest⟩ := Option.bind_eq_some_iff.mp unwrapped
      have child := Node.field_mem field
      have inside := Node.child_inside wf child
      have deeper := unwrapDeclaration_inside fuel (Node.child_wellFormed wf child) rest
      exact ⟨deeper.1, by omega, by omega⟩
    · obtain ⟨inner, first, rest⟩ := Option.bind_eq_some_iff.mp unwrapped
      have child := Node.firstChild_mem first
      have inside := Node.child_inside wf child
      have deeper := unwrapDeclaration_inside fuel (Node.child_wellFormed wf child) rest
      exact ⟨deeper.1, by omega, by omega⟩
    · have child := List.mem_of_find?_eq_some unwrapped
      have inside := Node.child_inside wf child
      exact ⟨Node.child_wellFormed wf child, inside.1, inside.2.2⟩
    · cases unwrapped
      exact ⟨wf, Nat.le_refl _, Nat.le_refl _⟩

theorem TypeAlias.ofNode_node {n : Node} {a : TypeAlias} (made : TypeAlias.ofNode n source = some a) :
    a.node = n ∧ a.value ∈ n.children := by
  simp only [TypeAlias.ofNode, Option.bind_eq_bind, Option.bind_eq_some_iff, Option.pure_def,
    Option.some.injEq] at made
  obtain ⟨_, _, value, field, rfl⟩ := made
  exact ⟨rfl, Node.field_mem field⟩

theorem namespaceBody_inside {fuel : Nat} {s decl body : Node} {keep : Node → Bool}
    (wf : s.wellFormed source = true) (unwrapped : unwrapDeclaration fuel s = some decl)
    (found : (decl.field? .body).filter keep = some body) :
    Node.childrenWellFormed source body.start body.stop body.children = true ∧
      s.start ≤ body.start ∧ body.stop ≤ s.stop := by
  obtain ⟨declWf, declStart, declStop⟩ := unwrapDeclaration_inside fuel wf unwrapped
  have child := Node.field_mem (Option.filter_eq_some_iff.mp found).1
  have bodyWf := Node.child_wellFormed declWf child
  have inside := Node.child_inside declWf child
  obtain ⟨_, _, _, ordered, children⟩ := Node.wellFormed_iff.mp bodyWf
  exact ⟨Node.childrenWellFormed_iff.mpr ⟨ordered, children⟩, by omega, by omega⟩

def TypeAlias.span (a : TypeAlias) : Option (Nat × Nat) := a.node.span

def AliasesPlaced (source : String) (lo hi : Nat) (aliases : List TypeAlias) : Prop :=
  Ordered TypeAlias.span lo hi aliases.reverse ∧
    ∀ a ∈ aliases, a.node.wellFormed source = true ∧ a.value ∈ a.node.children

theorem AliasesPlaced.extend {lo mid hi : Nat} {aliases : List TypeAlias}
    (placed : AliasesPlaced source lo mid aliases) (le : mid ≤ hi) :
    AliasesPlaced source lo hi aliases := by
  refine ⟨?_, placed.2⟩
  simpa using placed.1.append (show Ordered TypeAlias.span mid hi [] from le)

theorem AliasesPlaced.cons {lo mid hi : Nat} {aliases : List TypeAlias} {a : TypeAlias}
    (placed : AliasesPlaced source lo mid aliases) (wf : a.node.wellFormed source = true)
    (value : a.value ∈ a.node.children) (start : mid ≤ a.node.start) (stop : a.node.stop ≤ hi) :
    AliasesPlaced source lo hi (a :: aliases) := by
  refine ⟨?_, ?_⟩
  · rw [List.reverse_cons]
    refine placed.1.append (show Ordered TypeAlias.span mid hi [a] from ?_)
    exact ⟨start, Node.start_le_stop wf, stop⟩
  · intro b member
    rcases List.mem_cons.mp member with rfl | member
    · exact ⟨wf, value⟩
    · exact placed.2 b member

theorem walkStatements_placed (enter : String → Bool) (start : Nat) (depth : Nat)
    (stmts : List Node) (acc : Walk) : ∀ {lo hi : Nat},
      Node.childrenWellFormed source lo hi stmts = true → AliasesPlaced source start lo acc.aliases →
      AliasesPlaced source start hi (walkStatements enter source depth stmts acc).aliases := by
  fun_induction walkStatements enter source depth stmts acc with
  | case1 depth acc =>
    intro lo hi wf placed
    simp only [Node.childrenWellFormed, decide_eq_true_eq] at wf
    exact placed.extend wf
  | case2 depth s rest acc _ ih =>
    intro lo hi wf placed
    simp only [Node.childrenWellFormed, Bool.and_eq_true, decide_eq_true_eq] at wf
    exact ih wf.2 (placed.extend (Nat.le_trans wf.1.1 (Node.start_le_stop wf.1.2)))
  | case3 depth s rest acc decl unwrapped _ acc' =>
    rename_i ih
    intro lo hi wf placed
    simp only [Node.childrenWellFormed, Bool.and_eq_true, decide_eq_true_eq] at wf
    obtain ⟨⟨below, sWf⟩, rest⟩ := wf
    obtain ⟨declWf, declStart, declStop⟩ := unwrapDeclaration_inside _ sWf unwrapped
    apply ih rest
    -- the declaration's alias, if it has one, comes after those found so far
    simp only [acc']
    split
    · next a made =>
      obtain ⟨node, value⟩ := TypeAlias.ofNode_node made
      subst node
      exact placed.cons declWf value (Nat.le_trans below declStart) declStop
    · exact placed.extend (Nat.le_trans below (Node.start_le_stop sWf))
  | case4 depth s rest acc decl unwrapped _ _ name _ _ _ =>
    intro lo hi wf placed
    exact placed.extend (Node.lo_le_hi wf)
  | case5 s rest acc decl unwrapped _ _ name _ _ body d bodyFound inner _ =>
    -- a fault inside the namespace ends the walk there
    rename_i ih
    intro lo hi wf placed
    simp only [Node.childrenWellFormed, Bool.and_eq_true, decide_eq_true_eq] at wf
    obtain ⟨⟨below, sWf⟩, rest⟩ := wf
    obtain ⟨bodyWf, bodyStart, bodyStop⟩ := namespaceBody_inside sWf unwrapped bodyFound
    refine (ih bodyWf (placed.extend (Nat.le_trans below bodyStart))).extend ?_
    exact Nat.le_trans bodyStop (Node.lo_le_hi rest)
  | case6 s rest acc decl unwrapped _ _ name _ _ body d bodyFound inner _ ihInner =>
    rename_i ih
    intro lo hi wf placed
    simp only [Node.childrenWellFormed, Bool.and_eq_true, decide_eq_true_eq] at wf
    obtain ⟨⟨below, sWf⟩, rest⟩ := wf
    obtain ⟨bodyWf, bodyStart, bodyStop⟩ := namespaceBody_inside sWf unwrapped bodyFound
    exact ih rest ((ihInner bodyWf (placed.extend (Nat.le_trans below bodyStart))).extend bodyStop)
  | case7 s rest acc decl unwrapped _ _ name _ _ body _ ih =>
    intro lo hi wf placed
    simp only [Node.childrenWellFormed, Bool.and_eq_true, decide_eq_true_eq] at wf
    exact ih wf.2 (placed.extend (Nat.le_trans wf.1.1 (Node.start_le_stop wf.1.2)))
  | case8 depth s rest acc decl unwrapped _ _ name _ _ ih =>
    intro lo hi wf placed
    simp only [Node.childrenWellFormed, Bool.and_eq_true, decide_eq_true_eq] at wf
    exact ih wf.2 (placed.extend (Nat.le_trans wf.1.1 (Node.start_le_stop wf.1.2)))
  | case9 depth s rest acc decl unwrapped _ _ _ ih =>
    intro lo hi wf placed
    simp only [Node.childrenWellFormed, Bool.and_eq_true, decide_eq_true_eq] at wf
    exact ih wf.2 (placed.extend (Nat.le_trans wf.1.1 (Node.start_le_stop wf.1.2)))
  | case10 depth s rest acc decl unwrapped _ _ ih =>
    intro lo hi wf placed
    simp only [Node.childrenWellFormed, Bool.and_eq_true, decide_eq_true_eq] at wf
    exact ih wf.2 (placed.extend (Nat.le_trans wf.1.1 (Node.start_le_stop wf.1.2)))

theorem walkStatements_fault (enter : String → Bool) (depth : Nat) (stmts : List Node)
    (acc : Walk) {e : Error} (faulted : (walkStatements enter source depth stmts acc).fault = some e) :
    acc.fault = some e ∨ e = .emptyNamespace := by
  fun_induction walkStatements enter source depth stmts acc with
  | case1 => exact .inl faulted
  | case3 depth s rest acc decl unwrapped _ acc' =>
    rename_i ih
    -- finding an alias keeps the fault as it was
    have same : acc'.fault = acc.fault := by
      simp only [acc']
      split <;> rfl
    rw [← same]
    exact ih faulted
  | case4 => exact .inr (Option.some.inj faulted).symm
  | case5 s rest acc decl unwrapped _ _ name _ _ body d bodyFound inner _ =>
    rename_i ih
    exact ih faulted
  | case6 s rest acc decl unwrapped _ _ name _ _ body d bodyFound inner clean ihInner =>
    rename_i ih
    rcases ih faulted with innerFault | empty
    · exact ihInner innerFault
    · exact .inr empty
  | _ =>
    rename_i ih
    exact ih faulted

def statementAlias? (source : String) (s : Node) : Option TypeAlias :=
  (unwrapDeclaration s.height s).bind fun decl =>
    if decl.kind == .typeAliasDeclaration then TypeAlias.ofNode decl source else none

def declaresNamespace (s : Node) : Bool :=
  (unwrapDeclaration s.height s).any fun decl =>
    decl.kind == .internalModule || decl.kind == .module

def entersEmpty (enter : String → Bool) (source : String) (s : Node) : Bool :=
  (unwrapDeclaration s.height s).any fun decl =>
    (decl.kind == .internalModule || decl.kind == .module) &&
      (decl.field? .name).any (fun name => enter (name.text source)) &&
      ((decl.field? .body).filter fun b => !b.children.isEmpty).isNone

theorem walkStatements_cons_flat (enter : String → Bool) (depth : Nat) {s : Node}
    (rest : List Node) (acc : Walk) (noNamespace : declaresNamespace s = false) :
    walkStatements enter source depth (s :: rest) acc =
      walkStatements enter source depth rest
        { acc with aliases := (statementAlias? source s).toList ++ acc.aliases } := by
  rw [walkStatements]
  cases unwrapped : unwrapDeclaration s.height s with
  | none => simp [statementAlias?, unwrapped]
  | some decl =>
    have notNamespace : (decl.kind == .internalModule || decl.kind == .module) = false := by
      simpa [declaresNamespace, unwrapped] using noNamespace
    by_cases isAlias : (decl.kind == .typeAliasDeclaration) = true
    · simp only [isAlias, if_true, statementAlias?, unwrapped, Option.bind_some]
      cases TypeAlias.ofNode decl source <;> rfl
    · simp only [isAlias, notNamespace, Bool.false_eq_true, if_false, statementAlias?, unwrapped,
        Option.bind_some]
      simp

theorem walkStatements_empty (enter : String → Bool) (depth : Nat) {s : Node} (rest : List Node)
    (acc : Walk) (empty : entersEmpty enter source s = true) :
    walkStatements enter source depth (s :: rest) acc = { acc with fault := some .emptyNamespace } := by
  cases unwrapped : unwrapDeclaration s.height s with
  | none => simp [entersEmpty, unwrapped] at empty
  | some decl =>
    simp only [entersEmpty, unwrapped, Option.any_some, Bool.and_eq_true, Option.any_eq_true,
      Option.isNone_iff_eq_none] at empty
    obtain ⟨⟨isNamespace, name, named, entered⟩, bare⟩ := empty
    have notAlias : (decl.kind == .typeAliasDeclaration) = false := by
      rcases Bool.or_eq_true_iff.mp isNamespace with kind | kind <;>
        simp only [beq_iff_eq] at kind <;> simp [kind]
    rw [walkStatements]
    simp only [unwrapped, notAlias, isNamespace, named, entered, bare, Bool.false_eq_true,
      if_false, if_true]

theorem walkStatements_flat (enter : String → Bool) (depth : Nat) (stmts : List Node)
    (acc : Walk) (flat : ∀ s ∈ stmts, declaresNamespace s = false) :
    walkStatements enter source depth stmts acc =
      { acc with aliases := (stmts.filterMap (statementAlias? source)).reverse ++ acc.aliases } := by
  induction stmts generalizing acc with
  | nil => simp [walkStatements]
  | cons s rest ih =>
    rw [walkStatements_cons_flat enter depth rest acc (flat s (List.mem_cons_self ..)),
      ih _ fun t member => flat t (List.mem_cons_of_mem s member)]
    cases found : statementAlias? source s <;> simp [found]

theorem walkStatements_stops (enter : String → Bool) (depth : Nat) {flat rest : List Node}
    {s : Node} (acc : Walk) (noNamespace : ∀ t ∈ flat, declaresNamespace t = false)
    (empty : entersEmpty enter source s = true) :
    walkStatements enter source depth (flat ++ s :: rest) acc =
      { acc with aliases := (flat.filterMap (statementAlias? source)).reverse ++ acc.aliases,
                 fault := some .emptyNamespace } := by
  induction flat generalizing acc with
  | nil => simp [walkStatements_empty enter depth rest acc empty]
  | cons t flat ih =>
    rw [List.cons_append,
      walkStatements_cons_flat enter depth _ acc (noNamespace t (List.mem_cons_self ..)),
      ih _ fun u member => noNamespace u (List.mem_cons_of_mem t member)]
    cases found : statementAlias? source t <;> simp [found]

theorem walkModule_flat {t : Tree} (flat : ∀ s ∈ t.root.children, declaresNamespace s = false) :
    walkModule t source = ⟨t.root.children.filterMap (statementAlias? source), none⟩ := by
  simp [walkModule, walkModuleWith, walkStatements_flat _ _ _ _ flat]

theorem walkModule_stops {t : Tree} {k : Nat}
    (noNamespace : ∀ s ∈ t.root.children.take k, declaresNamespace s = false)
    (empty : (t.root.children.drop k).head?.any (entersEmpty (· == clientNamespace) source) = true) :
    walkModule t source =
      ⟨(t.root.children.take k).filterMap (statementAlias? source), some .emptyNamespace⟩ := by
  obtain ⟨s, found, entered⟩ := (Option.any_eq_true _ _).mp empty
  obtain ⟨rest, dropped⟩ := List.head?_eq_some_iff.mp found
  have split := List.take_append_drop k t.root.children
  have walked : walkStatements (· == clientNamespace) source t.root.height
      (t.root.children.take k ++ s :: rest) {} = _ :=
    walkStatements_stops _ _ _ noNamespace entered
  rw [← dropped, split] at walked
  simp [walkModule, walkModuleWith, walked]

theorem walkModule_aliases {t : Tree} (wf : t.WellFormed source) :
    Ordered TypeAlias.span t.root.start t.root.stop (walkModule t source).aliases ∧
      ∀ a ∈ (walkModule t source).aliases,
        a.node.wellFormed source = true ∧ a.value ∈ a.node.children := by
  obtain ⟨_, _, _, ordered, children⟩ := Node.wellFormed_iff.mp wf
  have none : AliasesPlaced source t.root.start t.root.start ({} : Walk).aliases :=
    ⟨Nat.le_refl _, by simp⟩
  obtain ⟨placed, good⟩ := walkStatements_placed (· == clientNamespace) t.root.start t.root.height
    t.root.children {} (Node.childrenWellFormed_iff.mpr ⟨ordered, children⟩) none
  refine ⟨placed, fun a member => good a ?_⟩
  simpa [walkModule, walkModuleWith] using member

theorem walkModule_fault {t : Tree} {e : Error} (faulted : (walkModule t source).fault = some e) :
    e = .emptyNamespace := by
  rcases walkStatements_fault _ _ _ _ faulted with none | empty
  · cases none
  · exact empty

end TypedJson
