import TypedJson.Proofs.Replaced
/-!
# The scope of a walk

Which declarations a walk meets is said here without fuel, accumulator or early stop: a
statement declares what is left once its `export` and `declare` wrappers are taken off (a
namespace written as an expression statement counts too); a type alias declaration is met
itself, a namespace the walk enters is met through its statements, or as itself when it has
none, and nothing else is met. The walk visits the aliases met, in that order, up to the first
namespace met without statements, and faults exactly when there is one. Its fuel never runs
out: a module is as deep as its tree, and the walk is given that depth. On a well-formed tree
what the walk meets lies in source order, each item after the one before.
-/
namespace TypedJson

open Syntax

namespace Syntax.Node

mutual

def declared : Node → Option Node
  | n@⟨kind, _, _, _, children⟩ =>
    if kind == .exportStatement then declaredByRole children
    else if kind == .ambientDeclaration then declaredByFirst children
    else if kind == .expressionStatement then children.find? (·.kind == .internalModule)
    else some n

def declaredByRole : List Node → Option Node
  | [] => none
  | c :: cs => if c.role == some .declaration then declared c else declaredByRole cs

def declaredByFirst : List Node → Option Node
  | [] => none
  | c :: cs => if c.isNamed then declared c else declaredByFirst cs

end

theorem declaredByRole_eq (cs : List Node) :
    declaredByRole cs = (cs.find? (·.role == some .declaration)).bind declared := by
  induction cs with
  | nil => rfl
  | cons c cs ih =>
    by_cases role : (c.role == some Role.declaration) = true
    · simp [declaredByRole, role]
    · simp only [declaredByRole, role, Bool.false_eq_true, if_false, List.find?_cons]
      exact ih

theorem declaredByFirst_eq (cs : List Node) : declaredByFirst cs = (cs.find? isNamed).bind declared := by
  induction cs with
  | nil => rfl
  | cons c cs ih =>
    by_cases named : c.isNamed = true
    · simp [declaredByFirst, named]
    · simp only [declaredByFirst, named, Bool.false_eq_true, if_false, List.find?_cons]
      exact ih

theorem height_le_of_declared : ∀ {n d : Node}, n.declared = some d → d.height ≤ n.height
  | ⟨kind, role, start, stop, children⟩, d, found => by
    simp only [declared] at found
    split at found
    · rw [declaredByRole_eq] at found
      obtain ⟨c, picked, inner⟩ := Option.bind_eq_some_iff.mp found
      have below := @height_lt ⟨kind, role, start, stop, children⟩ c (List.mem_of_find?_eq_some picked)
      have := height_le_of_declared inner
      omega
    · split at found
      · rw [declaredByFirst_eq] at found
        obtain ⟨c, picked, inner⟩ := Option.bind_eq_some_iff.mp found
        have below := @height_lt ⟨kind, role, start, stop, children⟩ c (List.mem_of_find?_eq_some picked)
        have := height_le_of_declared inner
        omega
      · split at found
        · exact Nat.le_of_lt (@height_lt ⟨kind, role, start, stop, children⟩ d (List.mem_of_find?_eq_some found))
        · cases found
          exact Nat.le_refl _
termination_by n => n.height
decreasing_by
  all_goals assumption

end Syntax.Node

theorem unwrapDeclaration_eq_declared : ∀ (fuel : Nat) (n : Node), n.height ≤ fuel →
    unwrapDeclaration fuel n = n.declared
  | 0, n, enough => absurd enough (by cases n; simp [Node.height])
  | fuel + 1, ⟨kind, role, start, stop, children⟩, enough => by
    -- a wrapper's declaration is a child, so the fuel left covers it
    have deeper : ∀ c ∈ children, unwrapDeclaration fuel c = c.declared := fun c child =>
      unwrapDeclaration_eq_declared fuel c
        (by have := @Node.height_lt ⟨kind, role, start, stop, children⟩ c child; omega)
    simp only [unwrapDeclaration, Node.declared]
    cases kind
    case exportStatement =>
      rw [Node.declaredByRole_eq]
      cases found : children.find? (·.role == some .declaration) with
      | none => simp [Node.field?, found]
      | some c => simp [Node.field?, found, deeper c (List.mem_of_find?_eq_some found)]
    case ambientDeclaration =>
      rw [Node.declaredByFirst_eq]
      cases found : children.find? Node.isNamed with
      | none => simp [Node.firstChild?, found]
      | some c => simp [Node.firstChild?, found, deeper c (List.mem_of_find?_eq_some found)]
    all_goals simp

theorem Syntax.Node.heightList_lt_height (n : Node) : Node.heightList n.children < n.height := by
  cases n
  simp [Node.height]

theorem heightList_lt_of_body {s decl body : Node} {keep : Node → Bool}
    (declaredAs : s.declared = some decl) (bodyAs : (decl.field? .body).filter keep = some body) :
    Node.heightList body.children < s.height := by
  have bodyBelow := Node.height_lt (Node.field_mem (Option.filter_eq_some_iff.mp bodyAs).1)
  have declBelow := Node.height_le_of_declared declaredAs
  have statementsBelow := body.heightList_lt_height
  omega

-- the match binders are read only by the termination proof, which the linter does not see
set_option linter.unusedVariables false in
def scopeItems (enter : String → Bool) (source : String) : List Node → List Node
  | [] => []
  | s :: rest =>
    (match declaredAs : s.declared with
      | none => []
      | some decl =>
        if decl.kind == .typeAliasDeclaration then [decl]
        else if (decl.kind == .internalModule || decl.kind == .module) &&
            (decl.field? .name).any (fun name => enter (name.text source)) then
          match bodyAs : (decl.field? .body).filter (fun b => !b.children.isEmpty) with
          | none => [decl]
          | some body => scopeItems enter source body.children
        else []) ++ scopeItems enter source rest
termination_by stmts => (Node.heightList stmts, stmts.length)
decreasing_by
  · exact Prod.Lex.left _ _ (Nat.lt_of_lt_of_le (heightList_lt_of_body declaredAs bodyAs)
      (Node.le_heightList (List.mem_cons_self ..)))
  · rcases Nat.lt_or_eq_of_le (Nat.le_max_right s.height (Node.heightList rest)) with lower | same
    · exact Prod.Lex.left _ _ lower
    · have level : Node.heightList (s :: rest) = Node.heightList rest := same.symm
      rw [level]
      exact Prod.Lex.right _ (Nat.lt_succ_self _)

def statementItems (enter : String → Bool) (source : String) (s : Node) : List Node :=
  match s.declared with
  | none => []
  | some decl =>
    if decl.kind == .typeAliasDeclaration then [decl]
    else if (decl.kind == .internalModule || decl.kind == .module) &&
        (decl.field? .name).any (fun name => enter (name.text source)) then
      match (decl.field? .body).filter (fun b => !b.children.isEmpty) with
      | none => [decl]
      | some body => scopeItems enter source body.children
    else []

variable {enter : String → Bool} {source : String}

theorem scopeItems_nil : scopeItems enter source [] = [] := by
  rw [scopeItems]

theorem scopeItems_cons (s : Node) (rest : List Node) :
    scopeItems enter source (s :: rest) = statementItems enter source s ++ scopeItems enter source rest := by
  rw [scopeItems, statementItems]
  congr 1
  split
  · next none => rw [none]
  · next decl declaredAs =>
    simp only [declaredAs]
    split
    · rfl
    · split
      · split
        · next bodyAs => rw [bodyAs]
        · next body bodyAs => rw [bodyAs]
      · rfl

def isAliasItem (d : Node) : Bool := d.kind == .typeAliasDeclaration

def walkOfItems (source : String) (items : List Node) (acc : Walk) : Walk :=
  ⟨((items.takeWhile isAliasItem).filterMap (TypeAlias.ofNode · source)).reverse ++ acc.aliases,
    if items.all isAliasItem then acc.fault else some .emptyNamespace⟩

section Steps

variable {s decl : Node}

theorem statementItems_of_none (declaredAs : s.declared = none) : statementItems enter source s = [] := by
  simp [statementItems, declaredAs]

theorem statementItems_of_alias (declaredAs : s.declared = some decl)
    (isAlias : (decl.kind == .typeAliasDeclaration) = true) : statementItems enter source s = [decl] := by
  simp [statementItems, declaredAs, isAlias]

theorem statementItems_of_skipped (declaredAs : s.declared = some decl)
    (notAlias : (decl.kind == .typeAliasDeclaration) = false)
    (skipped : ((decl.kind == .internalModule || decl.kind == .module) &&
      (decl.field? .name).any (fun name => enter (name.text source))) = false) :
    statementItems enter source s = [] := by
  simp only [statementItems, declaredAs, notAlias, skipped, Bool.false_eq_true, if_false]

theorem statementItems_of_entered (declaredAs : s.declared = some decl)
    (notAlias : (decl.kind == .typeAliasDeclaration) = false)
    (entered : ((decl.kind == .internalModule || decl.kind == .module) &&
      (decl.field? .name).any (fun name => enter (name.text source))) = true) :
    statementItems enter source s =
      match (decl.field? .body).filter (fun b => !b.children.isEmpty) with
      | none => [decl]
      | some body => scopeItems enter source body.children := by
  simp only [statementItems, declaredAs, notAlias, entered, Bool.false_eq_true, if_false, if_true]

end Steps

section Items

variable {items rest : List Node} {acc : Walk}

theorem walkOfItems_nil : walkOfItems source [] acc = acc := by
  simp [walkOfItems]

theorem walkOfItems_cons_alias {d : Node} (isAlias : isAliasItem d = true) :
    walkOfItems source (d :: items) acc =
      walkOfItems source items { acc with aliases := (TypeAlias.ofNode d source).toList ++ acc.aliases } := by
  cases made : TypeAlias.ofNode d source <;> simp [walkOfItems, isAlias, made]

theorem walkOfItems_cons_namespace {d : Node} (namespaced : isAliasItem d = false) :
    walkOfItems source (d :: items) acc = { acc with fault := some .emptyNamespace } := by
  simp [walkOfItems, namespaced]

theorem walkOfItems_append_of_all (aliases : items.all isAliasItem = true) :
    walkOfItems source (items ++ rest) acc = walkOfItems source rest (walkOfItems source items acc) := by
  have whole : items.takeWhile isAliasItem = items := List.takeWhile_eq_self_iff.mpr (by simpa using aliases)
  simp [walkOfItems, List.takeWhile_append_of_pos (by simpa using aliases), whole, aliases]

theorem walkOfItems_append_of_not_all (stopped : items.all isAliasItem = false) :
    walkOfItems source (items ++ rest) acc = walkOfItems source items acc := by
  have short : (items.takeWhile isAliasItem).length ≠ items.length := by
    intro same
    have whole := List.takeWhile_eq_self_iff.mp
      (List.IsPrefix.eq_of_length (List.takeWhile_prefix isAliasItem) same)
    obtain ⟨x, member, notAlias⟩ : ∃ x ∈ items, isAliasItem x = false := by simpa using stopped
    rw [whole x member] at notAlias
    cases notAlias
  simp [walkOfItems, List.takeWhile_append, short, stopped]

end Items

theorem declared_of_unwrapped {s : Node} {d : Option Node} (unwrapped : unwrapDeclaration s.height s = d) :
    s.declared = d :=
  (unwrapDeclaration_eq_declared s.height s (Nat.le_refl _)).symm.trans unwrapped

theorem Syntax.Node.heightList_tail_lt {s : Node} {rest : List Node} {depth : Nat}
    (below : Node.heightList (s :: rest) < depth) : Node.heightList rest < depth :=
  Nat.lt_of_le_of_lt (Nat.le_max_right _ _) below

theorem heightList_body_lt {s decl body : Node} {rest : List Node} {keep : Node → Bool} {d : Nat}
    (declaredAs : s.declared = some decl) (bodyAs : (decl.field? .body).filter keep = some body)
    (below : Node.heightList (s :: rest) < d + 1) : Node.heightList body.children < d := by
  have bodyBelow := heightList_lt_of_body declaredAs bodyAs
  have first := Node.le_heightList (List.mem_cons_self (a := s) (l := rest))
  omega

theorem walkStatements_eq_items : ∀ (depth : Nat) (stmts : List Node) (acc : Walk),
    Node.heightList stmts < depth → acc.fault = none →
      walkStatements enter source depth stmts acc = walkOfItems source (scopeItems enter source stmts) acc := by
  intro depth stmts acc
  fun_induction walkStatements enter source depth stmts acc with
  | case1 depth acc =>
    intro _ _
    rw [scopeItems_nil, walkOfItems_nil]
  | case2 depth s rest acc unwrapped ih =>
    intro below clean
    rw [scopeItems_cons, statementItems_of_none (declared_of_unwrapped unwrapped), List.nil_append]
    exact ih (Node.heightList_tail_lt below) clean
  | case3 depth s rest acc decl unwrapped isAlias acc' =>
    rename_i ih
    intro below clean
    have found : acc' = { acc with aliases := (TypeAlias.ofNode decl source).toList ++ acc.aliases } := by
      cases made : TypeAlias.ofNode decl source <;> simp [acc', made]
    rw [scopeItems_cons, statementItems_of_alias (declared_of_unwrapped unwrapped) isAlias,
      List.singleton_append, walkOfItems_cons_alias isAlias, ← found]
    exact ih (Node.heightList_tail_lt below) (by rw [found]; exact clean)
  | case4 depth s rest acc decl unwrapped notAlias isNamespace name named entered bare =>
    intro _ _
    have namespaced : isAliasItem decl = false := by simpa [isAliasItem] using notAlias
    rw [scopeItems_cons, statementItems_of_entered (declared_of_unwrapped unwrapped)
      (by simpa using notAlias) (by simp [isNamespace, named, entered]), bare]
    rw [List.singleton_append, walkOfItems_cons_namespace namespaced]
  | case5 s rest acc decl unwrapped notAlias isNamespace name named entered body d bodyFound inner
      faulted =>
    rename_i ihInner
    intro below clean
    have declaredAs := declared_of_unwrapped unwrapped
    -- the namespace's statements lie below the statement, so the depth left covers them
    have walked := ihInner (heightList_body_lt declaredAs bodyFound below) clean
    have stopped : (scopeItems enter source body.children).all isAliasItem = false := by
      simp only [inner, walked, walkOfItems, clean] at faulted
      cases all : (scopeItems enter source body.children).all isAliasItem <;> simp_all
    rw [scopeItems_cons, statementItems_of_entered declaredAs (by simpa using notAlias)
      (by simp [isNamespace, named, entered]), bodyFound]
    rw [walkOfItems_append_of_not_all stopped]
    exact walked
  | case6 s rest acc decl unwrapped notAlias isNamespace name named entered body d bodyFound inner
      clean' ihInner =>
    rename_i ih
    intro below clean
    have declaredAs := declared_of_unwrapped unwrapped
    have walked := ihInner (heightList_body_lt declaredAs bodyFound below) clean
    have aliases : (scopeItems enter source body.children).all isAliasItem = true := by
      simp only [inner, walked, walkOfItems, clean] at clean'
      cases all : (scopeItems enter source body.children).all isAliasItem <;> simp_all
    have innerClean : inner.fault = none := by
      simp only [inner, walked, walkOfItems, aliases, if_true, clean]
    rw [scopeItems_cons, statementItems_of_entered declaredAs (by simpa using notAlias)
      (by simp [isNamespace, named, entered]), bodyFound]
    rw [walkOfItems_append_of_all aliases, ← walked]
    exact ih (Node.heightList_tail_lt below) innerClean
  | case7 s rest acc decl unwrapped _ _ name _ _ body _ ih =>
    intro below
    exact absurd below (Nat.not_lt_zero _)
  | case8 depth s rest acc decl unwrapped notAlias isNamespace name named notEntered ih =>
    intro below clean
    rw [scopeItems_cons, statementItems_of_skipped (declared_of_unwrapped unwrapped)
      (by simpa using notAlias) (by simp [named, notEntered]), List.nil_append]
    exact ih (Node.heightList_tail_lt below) clean
  | case9 depth s rest acc decl unwrapped notAlias isNamespace unnamed ih =>
    intro below clean
    rw [scopeItems_cons, statementItems_of_skipped (declared_of_unwrapped unwrapped)
      (by simpa using notAlias) (by simp [unnamed]), List.nil_append]
    exact ih (Node.heightList_tail_lt below) clean
  | case10 depth s rest acc decl unwrapped notAlias notNamespace ih =>
    intro below clean
    rw [scopeItems_cons, statementItems_of_skipped (declared_of_unwrapped unwrapped)
      (by simpa using notAlias) (by rw [Bool.not_eq_true] at notNamespace; simp [notNamespace]),
      List.nil_append]
    exact ih (Node.heightList_tail_lt below) clean

theorem walkModule_eq_items (t : Tree) (source : String) :
    walkModule t source =
      ⟨((scopeItems (· == clientNamespace) source t.root.children).takeWhile isAliasItem).filterMap
          (TypeAlias.ofNode · source),
        if (scopeItems (· == clientNamespace) source t.root.children).all isAliasItem then none
        else some .emptyNamespace⟩ := by
  have walked := @walkStatements_eq_items (· == clientNamespace) source t.root.height t.root.children {}
    t.root.heightList_lt_height rfl
  simp [walkModule, walkModuleWith, walked, walkOfItems]

section Order

variable {s : Node}

theorem declared_inside {d : Node} (wf : s.wellFormed source = true) (declaredAs : s.declared = some d) :
    d.wellFormed source = true ∧ s.start ≤ d.start ∧ d.stop ≤ s.stop :=
  unwrapDeclaration_inside s.height wf ((unwrapDeclaration_eq_declared s.height s (Nat.le_refl _)).trans declaredAs)

theorem ordered_singleton {lo hi : Nat} {d : Node} (wf : d.wellFormed source = true)
    (start : lo ≤ d.start) (stop : d.stop ≤ hi) : Ordered Node.span lo hi [d] :=
  ⟨start, Node.start_le_stop wf, stop⟩

theorem statementItems_ordered (wf : s.wellFormed source = true)
    (inner : ∀ decl body, s.declared = some decl →
      (decl.field? .body).filter (fun b => !b.children.isEmpty) = some body →
      ∀ {lo hi : Nat}, Node.childrenWellFormed source lo hi body.children = true →
        Ordered Node.span lo hi (scopeItems enter source body.children)) :
    Ordered Node.span s.start s.stop (statementItems enter source s) := by
  have empty : Ordered Node.span s.start s.stop ([] : List Node) := Node.start_le_stop wf
  cases declaredAs : s.declared with
  | none => rwa [statementItems_of_none declaredAs]
  | some decl =>
    obtain ⟨declWf, declStart, declStop⟩ := declared_inside wf declaredAs
    have alone : Ordered Node.span s.start s.stop [decl] := ordered_singleton declWf declStart declStop
    cases isAlias : decl.kind == .typeAliasDeclaration
    · cases entered : ((decl.kind == .internalModule || decl.kind == .module) &&
          (decl.field? .name).any (fun name => enter (name.text source)))
      · rwa [statementItems_of_skipped declaredAs isAlias entered]
      · rw [statementItems_of_entered declaredAs isAlias entered]
        cases bodyAs : (decl.field? .body).filter (fun b => !b.children.isEmpty) with
        | none => exact alone
        | some body =>
          -- the namespace's statements lie inside the statement
          obtain ⟨bodyWf, bodyStart, bodyStop⟩ := namespaceBody_inside wf
            ((unwrapDeclaration_eq_declared s.height s (Nat.le_refl _)).trans declaredAs) bodyAs
          have within := (inner decl body declaredAs bodyAs bodyWf).of_le bodyStart
          simpa using within.append (show Ordered Node.span body.stop s.stop ([] : List Node) from bodyStop)
    · rwa [statementItems_of_alias declaredAs isAlias]

theorem scopeItems_ordered (stmts : List Node) : ∀ {lo hi : Nat},
    Node.childrenWellFormed source lo hi stmts = true →
      Ordered Node.span lo hi (scopeItems enter source stmts) := by
  induction stmts using scopeItems.induct with
  | case1 =>
    intro lo hi wf
    rw [scopeItems_nil]
    exact Node.lo_le_hi wf
  | case2 s rest inner ih =>
    intro lo hi wf
    simp only [Node.childrenWellFormed, Bool.and_eq_true, decide_eq_true_eq] at wf
    obtain ⟨⟨below, sWf⟩, restWf⟩ := wf
    rw [scopeItems_cons]
    exact ((statementItems_ordered sWf fun decl body declaredAs bodyAs _ _ bodyWf =>
      inner decl declaredAs body bodyAs bodyWf).of_le below).append (ih restWf)

end Order

/-- A module's walk visits the type aliases its statements and the statements of its client
namespaces meet, in order, up to the first client namespace met without statements, and
faults exactly when there is one; on a well-formed tree what it meets lies in source order. -/
theorem walkModule_visits_scope (t : Tree) (source : String) :
    walkModule t source =
      ⟨((scopeItems (· == clientNamespace) source t.root.children).takeWhile isAliasItem).filterMap
          (TypeAlias.ofNode · source),
        if (scopeItems (· == clientNamespace) source t.root.children).all isAliasItem then none
        else some .emptyNamespace⟩ ∧
    (t.WellFormed source →
      Ordered Node.span t.root.start t.root.stop (scopeItems (· == clientNamespace) source t.root.children)) := by
  refine ⟨walkModule_eq_items t source, fun wf => scopeItems_ordered _ ?_⟩
  obtain ⟨_, _, _, ordered, children⟩ := Node.wellFormed_iff.mp wf
  exact Node.childrenWellFormed_iff.mpr ⟨ordered, children⟩

theorem walkModule_visits_scope_declared :
    (parse "declare namespace Prisma \x7b type B = \x7b\x7d \x7d").WellFormed
        "declare namespace Prisma \x7b type B = \x7b\x7d \x7d" ∧
      Ordered Node.span (parse "declare namespace Prisma \x7b type B = \x7b\x7d \x7d").root.start
        (parse "declare namespace Prisma \x7b type B = \x7b\x7d \x7d").root.stop
        (scopeItems (· == clientNamespace) "declare namespace Prisma \x7b type B = \x7b\x7d \x7d"
          (parse "declare namespace Prisma \x7b type B = \x7b\x7d \x7d").root.children) :=
  have wf : (parse "declare namespace Prisma \x7b type B = \x7b\x7d \x7d").WellFormed
      "declare namespace Prisma \x7b type B = \x7b\x7d \x7d" := by
    decide +kernel
  ⟨wf, (walkModule_visits_scope _ _).2 wf⟩

end TypedJson
